import PlanText.Node

/-!
Nodes by their paths: the child indices that lead to them from the top. In the order of their
paths each node stands before its descendants, and these before its later siblings.
-/

namespace PlanText.Node

/-- The node that a path leads to. -/
def at? : Node → List Nat → Option Node
  | node, [] => some node
  | atom _, _ :: _ => none
  | list items, i :: path => items[i]?.bind (·.at? path)

mutual

/-- The paths to a node itself and to its descendants. -/
def paths : Node → List (List Nat)
  | atom _ => [[]]
  | list items => [] :: itemPaths 0 items

/-- The paths to these items, the first of which has this index, and to their descendants. -/
def itemPaths (index : Nat) : List Node → List (List Nat)
  | [] => []
  | node :: rest => node.paths.map (index :: ·) ++ itemPaths (index + 1) rest

end

mutual

/-- A node and its descendants, counted. -/
def count : Node → Nat
  | atom _ => 1
  | list items => itemCount items + 1

def itemCount : List Node → Nat
  | [] => 0
  | node :: rest => node.count + itemCount rest

end

@[simp] theorem at?_nil (node : Node) : node.at? [] = some node := by
  cases node <;> rfl

@[simp] theorem at?_list_cons (items : List Node) (i : Nat) (path : List Nat) :
    (list items).at? (i :: path) = items[i]?.bind (·.at? path) := rfl

mutual

/-- The paths are those that lead somewhere. -/
theorem mem_paths : (node : Node) → ∀ {path : List Nat},
    path ∈ node.paths ↔ (node.at? path).isSome = true
  | atom text, [] => by simp [paths]
  | atom text, i :: path => by simp [paths, at?]
  | list items, [] => by simp [paths]
  | list items, i :: path => by
      rw [paths, List.mem_cons, mem_itemPaths items]
      constructor
      · rintro (h | ⟨j, rest, h, hrest⟩)
        · cases h
        · rw [Nat.zero_add] at h
          exact h ▸ hrest
      · intro h
        exact .inr ⟨i, path, by rw [Nat.zero_add], h⟩

theorem mem_itemPaths : (items : List Node) → ∀ {index : Nat} {path : List Nat},
    path ∈ itemPaths index items ↔
      ∃ i rest, path = (index + i) :: rest ∧ ((list items).at? (i :: rest)).isSome = true
  | [], index, path => by simp [itemPaths]
  | node :: items, index, path => by
      rw [itemPaths, List.mem_append, List.mem_map, mem_itemPaths items]
      constructor
      · rintro (⟨rest, hrest, rfl⟩ | ⟨i, rest, rfl, hrest⟩)
        · exact ⟨0, rest, rfl, mem_paths node |>.mp hrest⟩
        · refine ⟨i + 1, rest, ?_, hrest⟩
          rw [Nat.add_right_comm, Nat.add_assoc]
      · rintro ⟨_ | i, rest, rfl, hrest⟩
        · exact .inl ⟨rest, mem_paths node |>.mpr hrest, rfl⟩
        · refine .inr ⟨i, rest, ?_, hrest⟩
          rw [Nat.add_right_comm, Nat.add_assoc]

end

/-- The paths to the items of a list and to their descendants are those that lead somewhere. -/
theorem mem_itemPaths_zero {items : List Node} {path : List Nat} :
    path ∈ itemPaths 0 items ↔ path ≠ [] ∧ ((list items).at? path).isSome = true := by
  rw [mem_itemPaths items]
  constructor
  · rintro ⟨i, rest, rfl, h⟩
    rw [Nat.zero_add]
    exact ⟨List.cons_ne_nil _ _, h⟩
  · rintro ⟨hne, h⟩
    obtain ⟨i, rest, rfl⟩ := List.exists_cons_of_ne_nil hne
    exact ⟨i, rest, by rw [Nat.zero_add], h⟩

mutual

theorem pairwise_paths : (node : Node) → node.paths.Pairwise (· < ·)
  | atom _ => List.pairwise_singleton _ _
  | list items => by
      rw [paths, List.pairwise_cons]
      refine ⟨?_, pairwise_itemPaths items⟩
      intro path hpath
      obtain ⟨i, rest, rfl⟩ := List.exists_cons_of_ne_nil (mem_itemPaths_zero.mp hpath).1
      exact List.nil_lt_cons _ _

theorem pairwise_itemPaths : (items : List Node) → ∀ {index : Nat},
    (itemPaths index items).Pairwise (· < ·)
  | [], _ => List.Pairwise.nil
  | node :: items, index => by
      rw [itemPaths, List.pairwise_append]
      refine ⟨?_, pairwise_itemPaths items, ?_⟩
      · refine (pairwise_paths node).map _ ?_
        intro path other h
        exact List.cons_lt_cons_iff.mpr (.inr ⟨rfl, h⟩)
      · intro path hpath other hother
        obtain ⟨rest, -, rfl⟩ := List.mem_map.mp hpath
        obtain ⟨i, tail, rfl, -⟩ := (mem_itemPaths items).mp hother
        exact List.cons_lt_cons_iff.mpr (.inl (by omega))

end

mutual

theorem length_paths : (node : Node) → node.paths.length = node.count
  | atom _ => rfl
  | list items => by rw [paths, count, List.length_cons, length_itemPaths items]

theorem length_itemPaths : (items : List Node) → ∀ {index : Nat},
    (itemPaths index items).length = itemCount items
  | [], _ => rfl
  | node :: items, _ => by
      rw [itemPaths, itemCount, List.length_append, List.length_map, length_paths node,
        length_itemPaths items]

end

end PlanText.Node
