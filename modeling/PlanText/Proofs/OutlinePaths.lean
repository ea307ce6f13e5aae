import PlanText.Outline.Path
import PlanText.Proofs.OutlineText

/-!
The outline drawn from the paths of its nodes. Drawing walks the tree and carries a margin along.
The margin holds what the steps on the way down say about last siblings, and a path tells the same
without the walk, so each line can be found from the path of its node alone.
-/

namespace PlanText.Outline

/-- What a line ends with: the atom, cut if it is long, or the number of items. -/
def caption : Node → String
  | .atom text => " ◦ " ++ shortText text
  | .list items =>
    " ☰ " ++ toString items.length ++ if items.length = 1 then " item" else " items"

/-- The line of the node at a path below the top. Two characters stand for each ancestor, and two
for the node itself. -/
def lineAt (top : Node) (path : List Nat) : Option String :=
  (top.at? path).map fun node =>
    String.join ((List.range (path.length - 1)).map fun j =>
      if isLast top (path.take (j + 1)) then "  " else "│ ") ++
    (if isLast top path then "└─" else "├─") ++ caption node

/-- A place with the way to the node that it was found from. -/
def Place.below (above : List Bool) (p : Place) : Place := ⟨above ++ p.lasts, p.node⟩

theorem Place.below_below (above lasts : List Bool) (p : Place) :
    (p.below lasts).below above = p.below (above ++ lasts) := by
  simp [Place.below]

theorem Place.line_mk (above : List Bool) (last : Bool) (node : Node) :
    Place.line ⟨above ++ [last], node⟩ = above.flatMap trail ++ connector last ++ label node := by
  simp [Place.line]

/-! The margin is what stands under the connectors on the way down. -/

mutual

theorem nodeLines_eq_places : (node : Node) → ∀ (above : List Bool) (last : Bool),
    nodeLines (above.flatMap trail) last node = (nodePlaces above last node).map Place.line
  | .atom text, above, last => by simp [nodeLines, nodePlaces, Place.line_mk]
  | .list items, above, last => by
      rw [nodeLines, nodePlaces, List.map_cons, Place.line_mk, ← itemLines_eq_places items,
        List.flatMap_append, List.flatMap_singleton]

theorem itemLines_eq_places : (items : List Node) → ∀ above : List Bool,
    itemLines (above.flatMap trail) items = (places above items).map Place.line
  | [], _ => rfl
  | node :: rest, above => by
      rw [itemLines, places, List.map_append, nodeLines_eq_places node, itemLines_eq_places rest]

end

/-! The way down that a path tells. -/

theorem isLast_singleton (items : List Node) (i : Nat) :
    isLast (.list items) [i] = items[i + 1]?.isNone := by
  rw [isLast, next, Node.at?_list_cons]
  cases items[i + 1]? <;> simp

/-- Below a child, its siblings do not count. -/
theorem isLast_cons {items : List Node} {i : Nat} {child : Node} {path : List Nat}
    (h : items[i]? = some child) (hpath : path ≠ []) :
    isLast (.list items) (i :: path) = isLast child path := by
  cases path with
  | nil => exact absurd rfl hpath
  | cons j path => rw [isLast, isLast, next, Node.at?_list_cons, h, Option.bind_some]

theorem place?_nil (node : Node) : place? node [] = some ⟨[], node⟩ := by
  simp [place?]

theorem place?_cons {items : List Node} {i : Nat} {child : Node} (h : items[i]? = some child)
    (path : List Nat) :
    place? (.list items) (i :: path) =
      (place? child path).map (Place.below [isLast (.list items) [i]]) := by
  have hlasts : (List.range (i :: path).length).map
        (fun j => isLast (.list items) ((i :: path).take (j + 1))) =
      isLast (.list items) [i] ::
        (List.range path.length).map fun j => isLast child (path.take (j + 1)) := by
    rw [List.length_cons, List.range_succ_eq_map, List.map_cons, List.map_map]
    refine congrArg (isLast (.list items) [i] :: ·) (List.map_congr_left ?_)
    intro j hj
    apply isLast_cons h
    intro hnil
    rcases List.take_eq_nil_iff.mp hnil with hzero | hnone
    · exact absurd hzero (Nat.succ_ne_zero j)
    · rw [hnone] at hj
      exact absurd (List.mem_range.mp hj) (Nat.not_lt_zero j)
  rw [place?, place?, Node.at?_list_cons, h, Option.bind_some, hlasts, Option.map_map]
  rfl

mutual

/-- The walk through a node meets the places that its paths lead to. -/
theorem nodePlaces_eq_paths : (node : Node) → ∀ (above : List Bool) (last : Bool),
    (nodePlaces above last node).map some =
      node.paths.map fun path => (place? node path).map (Place.below (above ++ [last]))
  | .atom text, above, last => by simp [nodePlaces, Node.paths, place?_nil, Place.below]
  | .list items, above, last => by
      have hitems := places_eq_paths items [] (above ++ [last])
      rw [nodePlaces, Node.paths, List.map_cons, List.map_cons, hitems, place?_nil]
      simp [Place.below]

/-- So does the walk through the rest of a list, where the indices count the items done. -/
theorem places_eq_paths : (rest : List Node) → ∀ (done : List Node) (above : List Bool),
    (places above rest).map some = (Node.itemPaths done.length rest).map
      fun path => (place? (.list (done ++ rest)) path).map (Place.below above)
  | [], _, _ => rfl
  | node :: rest, done, above => by
      have hnode : (done ++ node :: rest)[done.length]? = some node := by simp
      have hlast : isLast (.list (done ++ node :: rest)) [done.length] = rest.isEmpty := by
        rw [isLast_singleton]
        cases rest <;> simp
      have hrest := places_eq_paths rest (done ++ [node]) above
      rw [List.length_append, List.length_singleton, List.append_assoc,
        List.singleton_append] at hrest
      rw [places, Node.itemPaths, List.map_append, List.map_append, nodePlaces_eq_paths node,
        hrest, List.map_map]
      refine congrArg (· ++ _) (List.map_congr_left ?_)
      intro path _
      rw [Function.comp_apply, place?_cons hnode, hlast, Option.map_map]
      exact congrArg (Option.map · _) (funext fun p => (p.below_below above _).symm)

end

/-! The lines that the places give. -/

theorem toList_caption (node : Node) : (caption node).toList = label node := by
  cases node with
  | atom text =>
      rw [caption, label, String.toList_append, toList_shortText]
      rfl
  | list items =>
      have hcount : (toString items.length).toList = Nat.toDigits 10 items.length := by
        rw [Nat.toString_eq_ofList_toDigits, String.toList_ofList]
      rw [caption, label, String.toList_append, String.toList_append, hcount,
        apply_ite String.toList]
      rfl

theorem map_lineAt {path : List Nat} (hne : path ≠ []) (top : Node) :
    (lineAt top path).map String.toList = (place? top path).map Place.line := by
  obtain ⟨i, rest, rfl⟩ := List.exists_cons_of_ne_nil hne
  have htrail : ∀ last : Bool, (if last then "  " else "│ ").toList = trail last := by
    intro last
    cases last <;> rfl
  have hconnector : ∀ last : Bool, (if last then "└─" else "├─").toList = connector last := by
    intro last
    cases last <;> rfl
  have hall : (i :: rest).take (rest.length + 1) = i :: rest :=
    List.take_of_length_le (Nat.le_refl _)
  rw [lineAt, place?, Option.map_map, Option.map_map]
  refine congrArg (Option.map · _) (funext fun node => ?_)
  simp only [Function.comp_apply, List.length_cons, Nat.add_sub_cancel, List.range_succ,
    List.map_append, List.map_singleton, Place.line_mk, String.toList_append, String.toList_join,
    List.flatMap_map, htrail, hconnector, toList_caption, hall]

theorem itemLines_eq_lineAt (items : List Node) :
    itemLines [] items =
      ((Node.itemPaths 0 items).filterMap (lineAt (.list items))).map String.toList := by
  have hbelow : Place.below [] = id := rfl
  have hpaths := congrArg (List.filterMap id) (places_eq_paths items [] [])
  rw [List.filterMap_map, List.filterMap_map, hbelow] at hpaths
  calc
    itemLines [] items = (places [] items).map Place.line := itemLines_eq_places items []
    _ = ((Node.itemPaths 0 items).filterMap (place? (.list items))).map Place.line := by
        simpa [Function.comp_def] using congrArg (List.map Place.line) hpaths
    _ = ((Node.itemPaths 0 items).filterMap (lineAt (.list items))).map String.toList := by
        rw [List.map_filterMap, List.map_filterMap]
        apply List.filterMap_congr
        intro path hpath
        exact (map_lineAt (Node.mem_itemPaths_zero.mp hpath).1 _).symm

/-! As many lines as nodes. -/

theorem length_itemLines (items : List Node) :
    (itemLines [] items).length = Node.itemCount items := by
  have hlines := congrArg List.length (itemLines_eq_places items [])
  have hpaths := congrArg List.length (places_eq_paths items [] [])
  simp only [List.length_map] at hlines hpaths
  exact hlines.trans (hpaths.trans (Node.length_itemPaths items))

theorem count_newline {lines : List (List Char)} (h : ∀ line ∈ lines, '\n' ∉ line) :
    (lines.flatMap (· ++ ['\n'])).count '\n' = lines.length := by
  induction lines with
  | nil => rfl
  | cons line rest ih =>
      obtain ⟨hline, hrest⟩ := List.forall_mem_cons.mp h
      rw [List.flatMap_cons, List.count_append, List.count_append, ih hrest,
        List.count_eq_zero.mpr hline, List.length_cons, Nat.add_comm]
      rfl

theorem count_newline_draw {items : List Node} (h : Unbroken items) :
    (draw items).toList.count '\n' = Node.itemCount items := by
  rw [draw, String.toList_ofList, count_newline (newline_not_mem_itemLines items (by simp) h),
    length_itemLines]

/-- The outline has one line for each node below the top, in the order of their paths, and the
line is found from the path of its node alone. What the reader gives is drawn in as many lines as
it has nodes. -/
theorem draw_by_paths (items : List Node) :
    (∀ path, path ∈ Node.itemPaths 0 items ↔
      path ≠ [] ∧ ((Node.list items).at? path).isSome = true) ∧
    (Node.itemPaths 0 items).Pairwise (· < ·) ∧
    draw items =
      String.join (((Node.itemPaths 0 items).filterMap (lineAt (.list items))).map (· ++ "\n")) ∧
    ∀ limit source, readText limit source = .ok items →
      (draw items).toList.count '\n' = Node.itemCount items := by
  refine ⟨fun _ => Node.mem_itemPaths_zero, Node.pairwise_itemPaths items, ?_,
    fun _ _ h => count_newline_draw (unbroken_of_readText h)⟩
  apply String.toList_inj.mp
  rw [draw, String.toList_ofList, itemLines_eq_lineAt, String.toList_join, List.flatMap_map,
    List.flatMap_map]
  simp only [String.toList_append]
  rfl

/-- Two lists inside a list, of which only the second is the last of its siblings. -/
theorem draw_by_paths_nested :
    let items : List Node := [.list [.list [.atom "a"], .list []], .atom "b"]
    readText none "(((a)())b)" = .ok items ∧
      Node.itemPaths 0 items = [[0], [0, 0], [0, 0, 0], [0, 1], [1]] ∧
      [0, 1] ∈ Node.itemPaths 0 items ∧
      draw items = String.join ["├─ ☰ 2 items\n", "│ ├─ ☰ 1 item\n", "│ │ └─ ◦ a\n",
        "│ └─ ☰ 0 items\n", "└─ ◦ b\n"] ∧
      (draw items).toList.count '\n' = 5 := by
  intro items
  have hread : readText none "(((a)())b)" = .ok items :=
    readText_ok_iff.mpr ⟨by decide +kernel, rfl⟩
  obtain ⟨hpaths, -, hdraw, hcount⟩ := draw_by_paths items
  exact ⟨hread, rfl, (hpaths [0, 1]).mpr ⟨by simp, rfl⟩, hdraw.trans (by decide +kernel),
    hcount none _ hread⟩

end PlanText.Outline
