import PlanText.Format.Builtin
import PlanText.Proofs.PadAndSplit
import PlanText.Proofs.YamlScalars

/-!
The YAML text of a list tells the list. Within the lines of a list an item ends where the next
line has a dash in front, since all lines of an item but its first are moved in. With that the
lines of a tree tell the tree, level by level. The text tells its lines as long as no line
holds a line break of its own.
-/

namespace PlanText

namespace Yaml

/-! The lines of a tree. -/

theorem nodeLines_ne_nil : (node : Node) → nodeLines node ≠ []
  | .atom _ => by simp [nodeLines]
  | .list [] => by simp [nodeLines]
  | .list (node :: rest) => by
      obtain ⟨first, others, heq⟩ := List.exists_cons_of_ne_nil (nodeLines_ne_nil node)
      simp [nodeLines, heq, itemLines]

/-- No lines, or lines of which the first has a dash in front. -/
def StartsItem (lines : List (List Char)) : Prop :=
  lines = [] ∨ ∃ first others, lines = ('-' :: ' ' :: first) :: others

theorem restLines_cons (node : Node) (rest : List Node) :
    ∃ first others, restLines (node :: rest) = ('-' :: ' ' :: first) :: others := by
  obtain ⟨first, others, heq⟩ := List.exists_cons_of_ne_nil (nodeLines_ne_nil node)
  exact ⟨first, _, by rw [restLines, heq, itemLines, List.cons_append]⟩

theorem startsItem_restLines (nodes : List Node) : StartsItem (restLines nodes) := by
  cases nodes with
  | nil => exact Or.inl rfl
  | cons node rest => exact Or.inr (restLines_cons node rest)

theorem nodeLines_list (node : Node) (rest : List Node) :
    nodeLines (.list (node :: rest)) = restLines (node :: rest) := rfl

/-- Lines that are moved in end where a dash stands in front. -/
theorem indented_append_inj {first second rest more : List (List Char)}
    (hrest : StartsItem rest) (hmore : StartsItem more)
    (h : first.map (fun line => ' ' :: ' ' :: line) ++ rest =
      second.map (fun line => ' ' :: ' ' :: line) ++ more) :
    first = second ∧ rest = more := by
  have hends : ∀ {lines others} {line : List Char}, StartsItem lines →
      lines ≠ (' ' :: ' ' :: line) :: others := by
    rintro lines others line (rfl | ⟨_, _, rfl⟩)
    · simp
    · simp
  induction first generalizing second with
  | nil =>
      cases second with
      | nil => exact ⟨rfl, h⟩
      | cons line second => exact absurd h (hends hrest)
  | cons line first ih =>
      cases second with
      | nil => exact absurd h.symm (hends hmore)
      | cons other second =>
          simp only [List.map_cons, List.cons_append, List.cons.injEq, true_and] at h
          obtain ⟨rfl, htail⟩ := h
          obtain ⟨rfl, hsame⟩ := ih htail
          exact ⟨rfl, hsame⟩

/-- The lines of an item are told from those that follow. -/
theorem itemLines_append_inj {first second rest more : List (List Char)}
    (hfirst : first ≠ []) (hsecond : second ≠ []) (hrest : StartsItem rest)
    (hmore : StartsItem more) (h : itemLines first ++ rest = itemLines second ++ more) :
    first = second ∧ rest = more := by
  obtain ⟨line, first, rfl⟩ := List.exists_cons_of_ne_nil hfirst
  obtain ⟨other, second, rfl⟩ := List.exists_cons_of_ne_nil hsecond
  simp only [itemLines, List.cons_append, List.cons.injEq, true_and] at h
  obtain ⟨rfl, htail⟩ := h
  obtain ⟨rfl, hsame⟩ := indented_append_inj hrest hmore htail
  exact ⟨rfl, hsame⟩

/-- An atom is written as no list is. -/
theorem nodeLines_atom_ne_list (text : String) (items : List Node) :
    nodeLines (.atom text) ≠ nodeLines (.list items) := by
  obtain ⟨hdash, hbrackets⟩ := scalar_ne_structure text.toList
  cases items with
  | nil => simpa [nodeLines] using hbrackets
  | cons node rest =>
      intro h
      obtain ⟨first, others, hstart⟩ := restLines_cons node rest
      rw [nodeLines_list, hstart, nodeLines, List.cons.injEq] at h
      exact hdash first h.1

theorem nodeLines_nil_ne_cons (node : Node) (rest : List Node) :
    nodeLines (.list []) ≠ nodeLines (.list (node :: rest)) := by
  intro h
  obtain ⟨first, others, hstart⟩ := restLines_cons node rest
  rw [nodeLines_list, hstart, nodeLines] at h
  simp at h

mutual

theorem nodeLines_inj : (node other : Node) → nodeLines node = nodeLines other → node = other
  | .atom text, .atom more, h => by
      have hscalar : scalar text.toList = scalar more.toList := by simpa [nodeLines] using h
      rw [String.toList_inj.mp (scalar_inj hscalar)]
  | .atom text, .list items, h => absurd h (nodeLines_atom_ne_list text items)
  | .list items, .atom text, h => absurd h.symm (nodeLines_atom_ne_list text items)
  | .list [], .list [], _ => rfl
  | .list [], .list (node :: rest), h => absurd h (nodeLines_nil_ne_cons node rest)
  | .list (node :: rest), .list [], h => absurd h.symm (nodeLines_nil_ne_cons node rest)
  | .list (node :: rest), .list (other :: more), h =>
      congrArg Node.list (restLines_inj (node :: rest) (other :: more) h)

theorem restLines_inj : (nodes others : List Node) → restLines nodes = restLines others →
    nodes = others
  | [], [], _ => rfl
  | [], other :: more, h => by
      obtain ⟨first, others, hstart⟩ := restLines_cons other more
      rw [hstart, restLines] at h
      contradiction
  | node :: rest, [], h => by
      obtain ⟨first, others, hstart⟩ := restLines_cons node rest
      rw [hstart, restLines] at h
      contradiction
  | node :: rest, other :: more, h => by
      obtain ⟨hlines, hrest⟩ := itemLines_append_inj (nodeLines_ne_nil node)
        (nodeLines_ne_nil other) (startsItem_restLines rest) (startsItem_restLines more) h
      rw [nodeLines_inj node other hlines, restLines_inj rest more hrest]

end

/-! The lines of a text. -/

theorem newline_not_mem_itemLines {lines : List (List Char)} (h : ∀ line ∈ lines, '\n' ∉ line) :
    ∀ line ∈ itemLines lines, '\n' ∉ line := by
  cases lines with
  | nil => simp [itemLines]
  | cons first others => simpa [itemLines] using h

mutual

theorem newline_not_mem_nodeLines : (node : Node) → (∀ atom ∈ node.atoms, '\n' ∉ atom.toList) →
    ∀ line ∈ nodeLines node, '\n' ∉ line
  | .atom text, h => by
      have htext := newline_not_mem_scalar (h text (by simp [Node.atoms]))
      simpa [nodeLines] using htext
  | .list [], _ => by simp [nodeLines]
  | .list (node :: rest), h => newline_not_mem_restLines (node :: rest) h

theorem newline_not_mem_restLines : (nodes : List Node) →
    (∀ atom ∈ Node.itemAtoms nodes, '\n' ∉ atom.toList) → ∀ line ∈ restLines nodes, '\n' ∉ line
  | [], _ => by simp [restLines]
  | node :: rest, h => by
      intro line hline
      rw [restLines, List.mem_append] at hline
      rcases hline with hline | hline
      · refine newline_not_mem_itemLines (newline_not_mem_nodeLines node ?_) line hline
        intro atom hatom
        exact h atom (by simp [Node.itemAtoms, hatom])
      · refine newline_not_mem_restLines rest ?_ line hline
        intro atom hatom
        exact h atom (by simp [Node.itemAtoms, hatom])

end

/-- Two lists have the same text only if they are the same list, provided that no atom holds a
line break: how lists nest, the order of items, empty lists and every atom, in whichever of the
three ways it is written, can be told from the text. -/
theorem render_yaml_inj {first second : List Node}
    (hfirst : ∀ atom ∈ Node.itemAtoms first, ∀ c ∈ atom.toList, isLineBreak c = false)
    (hsecond : ∀ atom ∈ Node.itemAtoms second, ∀ c ∈ atom.toList, isLineBreak c = false) :
    Format.yaml.render first = Format.yaml.render second ↔ first = second := by
  have hbreak : ∀ {items : List Node},
      (∀ atom ∈ Node.itemAtoms items, ∀ c ∈ atom.toList, isLineBreak c = false) →
        ∀ line ∈ nodeLines (.list items), '\n' ∉ line := by
    intro items hitems
    apply newline_not_mem_nodeLines
    intro atom hatom hmem
    exact absurd (hitems atom hatom '\n' hmem) (by decide)
  constructor
  · intro h
    have htext : document first = document second := Except.ok.inj h
    have hlines := congrArg Padded.lines (String.ofList_injective htext)
    rw [Padded.lines_flatMap (hbreak hfirst), Padded.lines_flatMap (hbreak hsecond)] at hlines
    have htree := nodeLines_inj _ _ (List.append_cancel_right hlines)
    exact Node.list.inj htree
  · rintro rfl
    rfl

/-- An atom that looks like an item, beside the list that has the item, and atoms that look
like an empty list or hold quotes and characters that are not printable. -/
theorem render_yaml_inj_dash :
    let first : List Node := [.atom "- a", .atom "[]", .list [.atom "'\x07"]]
    let second : List Node := [.list [.atom "a"], .list [], .list [.atom "'\\a"]]
    (∀ atom ∈ Node.itemAtoms first, ∀ c ∈ atom.toList, isLineBreak c = false) ∧
      (∀ atom ∈ Node.itemAtoms second, ∀ c ∈ atom.toList, isLineBreak c = false) ∧
        Format.yaml.render first ≠ Format.yaml.render second := by
  intro first second
  have hfirst : ∀ atom ∈ Node.itemAtoms first, ∀ c ∈ atom.toList, isLineBreak c = false := by
    simp [first, Node.itemAtoms, Node.atoms, isLineBreak]
  have hsecond : ∀ atom ∈ Node.itemAtoms second, ∀ c ∈ atom.toList, isLineBreak c = false := by
    simp [second, Node.itemAtoms, Node.atoms, isLineBreak]
  refine ⟨hfirst, hsecond, ?_⟩
  intro h
  exact absurd ((render_yaml_inj hfirst hsecond).mp h) (by decide)

end Yaml

end PlanText
