import PlanText.Outline
import PlanText.Proofs.CanonicalText
import PlanText.Proofs.LetterCase

/-!
The outline of a list tells the list, but for what is cut off long atoms. A label says how many
items a list has, so the lines of a tree end where the tree does, whatever lines follow and
whatever characters its atoms are made of.
-/

namespace PlanText.Outline

/-- A text of more than thirty characters, with dots for those after them. -/
def shortText (text : String) : String :=
  if 30 < text.length then String.ofList (text.toList.take 30) ++ "..." else text

mutual

/-- A node with its long atoms cut. -/
def shortNode : Node → Node
  | .atom text => .atom (shortText text)
  | .list items => .list (shortItems items)

def shortItems : List Node → List Node
  | [] => []
  | node :: rest => shortNode node :: shortItems rest

end

/-- No atom holds a line break. -/
def Unbroken (items : List Node) : Prop := ∀ atom ∈ Node.itemAtoms items, '\n' ∉ atom.toList

/-! What is cut off is not drawn. -/

theorem length_shortItems (items : List Node) : (shortItems items).length = items.length := by
  induction items with
  | nil => rfl
  | cons node rest ih => simp [shortItems, ih]

theorem isEmpty_shortItems (items : List Node) : (shortItems items).isEmpty = items.isEmpty := by
  cases items <;> rfl

/-- A text that was cut is cut at the same place again. -/
theorem shorten_shorten (text : List Char) : shorten (shorten text) = shorten text := by
  by_cases hlong : atomWidth < text.length
  · have hcut : shorten text = text.take atomWidth ++ ['.', '.', '.'] := if_pos hlong
    have hwidth : (text.take atomWidth).length = atomWidth :=
      List.length_take_of_le (Nat.le_of_lt hlong)
    rw [hcut, shorten, if_pos, List.take_left' hwidth]
    simp [hwidth]
  · have hkept : shorten text = text := if_neg hlong
    rw [hkept, hkept]

theorem toList_shortText (text : String) : (shortText text).toList = shorten text.toList := by
  rw [shortText, shorten, atomWidth, String.length_toList]
  split
  · rw [String.toList_append, String.toList_ofList]
    rfl
  · rfl

theorem label_shortNode (node : Node) : label (shortNode node) = label node := by
  cases node with
  | atom text => rw [shortNode, label, label, toList_shortText, shorten_shorten]
  | list items => rw [shortNode, label, label, length_shortItems]

mutual

theorem nodeLines_shortNode : (node : Node) → ∀ (margin : List Char) (last : Bool),
    nodeLines margin last (shortNode node) = nodeLines margin last node
  | .atom text, margin, last => by
      have hlabel := label_shortNode (.atom text)
      rw [shortNode] at hlabel ⊢
      rw [nodeLines, nodeLines, hlabel]
  | .list items, margin, last => by
      have hlabel := label_shortNode (.list items)
      rw [shortNode] at hlabel ⊢
      rw [nodeLines, nodeLines, hlabel, itemLines_shortItems items]

theorem itemLines_shortItems : (items : List Node) → ∀ margin : List Char,
    itemLines margin (shortItems items) = itemLines margin items
  | [], _ => rfl
  | node :: rest, margin => by
      rw [shortItems, itemLines, itemLines, isEmpty_shortItems, nodeLines_shortNode node,
        itemLines_shortItems rest]

end

theorem draw_shortItems (items : List Node) : draw (shortItems items) = draw items := by
  rw [draw, draw, itemLines_shortItems]

/-! What a line tells. -/

theorem connector_append_inj {last other : Bool} {rest more : List Char}
    (h : connector last ++ rest = connector other ++ more) : last = other ∧ rest = more := by
  cases last with
  | false =>
      cases other with
      | false => exact ⟨rfl, List.append_cancel_left h⟩
      | true => simp [connector] at h
  | true =>
      cases other with
      | false => simp [connector] at h
      | true => exact ⟨rfl, List.append_cancel_left h⟩

/-- A number in decimal digits is told from what follows it, unless that goes on with a digit. -/
theorem toDigits_append_inj {m n : Nat} {rest more : List Char}
    (hrest : rest.takeWhile Char.isDigit = []) (hmore : more.takeWhile Char.isDigit = [])
    (h : Nat.toDigits 10 m ++ rest = Nat.toDigits 10 n ++ more) : m = n := by
  have hdigits : ∀ {k : Nat} {tail : List Char}, tail.takeWhile Char.isDigit = [] →
      (Nat.toDigits 10 k ++ tail).takeWhile Char.isDigit = Nat.toDigits 10 k := by
    intro k tail htail
    rw [List.takeWhile_append_of_pos, htail, List.append_nil]
    intro c hc
    exact Nat.isDigit_of_mem_toDigits (by omega) (by omega) hc
  have hsame := congrArg (List.takeWhile Char.isDigit) h
  rw [hdigits hrest, hdigits hmore] at hsame
  calc
    m = Nat.ofDigitChars 10 (Nat.toDigits 10 m) 0 := Nat.ofDigitChars_ten_toDigits.symm
    _ = Nat.ofDigitChars 10 (Nat.toDigits 10 n) 0 := by rw [hsame]
    _ = n := Nat.ofDigitChars_ten_toDigits

theorem shorten_of_label_atom {text more : String}
    (h : label (.atom text) = label (.atom more)) :
    shortNode (.atom text) = shortNode (.atom more) := by
  have hshort : shorten text.toList = shorten more.toList := by simpa [label] using h
  rw [← toList_shortText, ← toList_shortText, String.toList_inj] at hshort
  rw [shortNode, shortNode, hshort]

theorem length_of_label_list {items more : List Node}
    (h : label (.list items) = label (.list more)) : items.length = more.length := by
  have hnoun : ∀ n : Nat,
      (if n = 1 then " item".toList else " items".toList).takeWhile Char.isDigit = [] := by
    intro n
    split <;> decide
  simp only [label, List.cons_append, List.cons.injEq, true_and] at h
  exact toDigits_append_inj (hnoun _) (hnoun _) h

theorem label_atom_ne_list (text : String) (items : List Node) :
    label (.atom text) ≠ label (.list items) := by
  intro h
  have hicon : '◦' = '☰' := (List.cons.inj (List.cons.inj h).2).1
  exact absurd hicon (by decide)

/-! What the lines tell. The margin of the first line is known, and the connector that follows it
gives the margin of the lines below. -/

theorem nodeLines_eq (margin : List Char) (last : Bool) (node : Node) :
    ∃ below, nodeLines margin last node = (margin ++ connector last ++ label node) :: below := by
  cases node with
  | atom text => exact ⟨[], by rw [nodeLines]⟩
  | list items => exact ⟨itemLines (margin ++ trail last) items, by rw [nodeLines]⟩

theorem first_of_nodeLines {margin : List Char} {last other : Bool} {node more : Node}
    {rest tail : List (List Char)}
    (h : nodeLines margin last node ++ rest = nodeLines margin other more ++ tail) :
    last = other ∧ label node = label more := by
  obtain ⟨below, hnode⟩ := nodeLines_eq margin last node
  obtain ⟨under, hmore⟩ := nodeLines_eq margin other more
  rw [hnode, hmore, List.cons_append, List.cons_append, List.append_assoc, List.append_assoc] at h
  exact connector_append_inj (List.append_cancel_left (List.cons.inj h).1)

mutual

/-- The lines of a node are told from those that follow. -/
theorem nodeLines_append_inj : (node more : Node) → ∀ {margin : List Char} {last other : Bool}
    {rest tail : List (List Char)},
    nodeLines margin last node ++ rest = nodeLines margin other more ++ tail →
      shortNode node = shortNode more ∧ rest = tail
  | .atom text, .atom more, margin, last, other, rest, tail, h => by
      obtain ⟨rfl, hlabel⟩ := first_of_nodeLines h
      simp only [nodeLines, List.singleton_append] at h
      exact ⟨shorten_of_label_atom hlabel, (List.cons.inj h).2⟩
  | .atom text, .list items, margin, last, other, rest, tail, h =>
      absurd (first_of_nodeLines h).2 (label_atom_ne_list text items)
  | .list items, .atom text, margin, last, other, rest, tail, h =>
      absurd (first_of_nodeLines h).2.symm (label_atom_ne_list text items)
  | .list items, .list more, margin, last, other, rest, tail, h => by
      obtain ⟨rfl, hlabel⟩ := first_of_nodeLines h
      have hlength := length_of_label_list hlabel
      rw [nodeLines, nodeLines, List.cons_append, List.cons_append] at h
      obtain ⟨hitems, hrest⟩ := itemLines_append_inj items more hlength (List.cons.inj h).2
      exact ⟨by rw [shortNode, shortNode, hitems], hrest⟩

/-- So are the lines of a list, once the number of its items is known. -/
theorem itemLines_append_inj : (items more : List Node) → ∀ {margin : List Char}
    {rest tail : List (List Char)}, items.length = more.length →
      itemLines margin items ++ rest = itemLines margin more ++ tail →
        shortItems items = shortItems more ∧ rest = tail
  | [], [], margin, rest, tail, _, h => ⟨rfl, h⟩
  | [], _ :: _, margin, rest, tail, hlength, _ => by cases hlength
  | _ :: _, [], margin, rest, tail, hlength, _ => by cases hlength
  | node :: items, other :: more, margin, rest, tail, hlength, h => by
      rw [itemLines, itemLines, List.append_assoc, List.append_assoc] at h
      obtain ⟨hnode, hbelow⟩ := nodeLines_append_inj node other h
      obtain ⟨hitems, hrest⟩ := itemLines_append_inj items more (Nat.succ.inj hlength) hbelow
      exact ⟨by rw [shortItems, shortItems, hnode, hitems], hrest⟩

end

/-- At the top no label gives the number of items, but there no lines follow. -/
theorem itemLines_inj {margin : List Char} {items more : List Node}
    (h : itemLines margin items = itemLines margin more) : shortItems items = shortItems more := by
  have hsome : ∀ {node : Node} {rest : List Node}, itemLines margin (node :: rest) ≠ [] := by
    intro node rest
    obtain ⟨below, hnode⟩ := nodeLines_eq margin rest.isEmpty node
    simp [itemLines, hnode]
  induction items generalizing more with
  | nil =>
      cases more with
      | nil => rfl
      | cons other others => exact absurd h.symm hsome
  | cons node rest ih =>
      cases more with
      | nil => exact absurd h hsome
      | cons other others =>
          rw [itemLines, itemLines] at h
          obtain ⟨hnode, hrest⟩ := nodeLines_append_inj node other h
          rw [shortItems, shortItems, hnode, ih hrest]

/-! The lines of the text. -/

theorem newline_not_mem_label {node : Node} (h : ∀ atom ∈ node.atoms, '\n' ∉ atom.toList) :
    '\n' ∉ label node := by
  cases node with
  | atom text =>
      have htext : '\n' ∉ text.toList := h text (by simp [Node.atoms])
      have htake : '\n' ∉ text.toList.take atomWidth :=
        fun hmem => htext (List.mem_of_mem_take hmem)
      have hshort : '\n' ∉ shorten text.toList := by
        unfold shorten
        split
        · simp [htake]
        · exact htext
      simpa [label] using hshort
  | list items =>
      have hdigits : '\n' ∉ Nat.toDigits 10 items.length := by
        intro hmem
        exact absurd (Nat.isDigit_of_mem_toDigits (by omega) (by omega) hmem) (by decide)
      have hnoun : '\n' ∉ (if items.length = 1 then " item".toList else " items".toList) := by
        split <;> decide
      have hicon : '\n' ∉ [' ', '☰', ' '] := by decide
      change '\n' ∉ [' ', '☰', ' '] ++ (Nat.toDigits 10 items.length ++ _)
      rw [List.mem_append, List.mem_append]
      exact not_or.mpr ⟨hicon, not_or.mpr ⟨hdigits, hnoun⟩⟩

theorem newline_not_mem_connector (last : Bool) : '\n' ∉ connector last := by
  cases last <;> decide

theorem newline_not_mem_trail (last : Bool) : '\n' ∉ trail last := by
  cases last <;> decide

mutual

theorem newline_not_mem_nodeLines : (node : Node) → ∀ {margin : List Char} {last : Bool},
    '\n' ∉ margin → (∀ atom ∈ node.atoms, '\n' ∉ atom.toList) →
      ∀ line ∈ nodeLines margin last node, '\n' ∉ line
  | .atom text, margin, last, hmargin, h => by
      have hlabel := newline_not_mem_label h
      simp [nodeLines, hmargin, newline_not_mem_connector, hlabel]
  | .list items, margin, last, hmargin, h => by
      have hlabel := newline_not_mem_label h
      have hbelow := @newline_not_mem_itemLines items (margin ++ trail last)
        (by simp [hmargin, newline_not_mem_trail]) h
      rw [nodeLines, List.forall_mem_cons]
      exact ⟨by simp [hmargin, newline_not_mem_connector, hlabel], hbelow⟩

theorem newline_not_mem_itemLines : (items : List Node) → ∀ {margin : List Char},
    '\n' ∉ margin → Unbroken items → ∀ line ∈ itemLines margin items, '\n' ∉ line
  | [], _, _, _ => by simp [itemLines]
  | node :: rest, margin, hmargin, h => by
      obtain ⟨hnode, hrest⟩ := List.forall_mem_append.mp h
      rw [itemLines, List.forall_mem_append]
      exact ⟨newline_not_mem_nodeLines node hmargin hnode,
        newline_not_mem_itemLines rest hmargin hrest⟩

end

theorem lines_draw {items : List Node} (h : Unbroken items) :
    Padded.lines (draw items).toList = itemLines [] items ++ [[]] := by
  rw [draw, String.toList_ofList]
  exact Padded.lines_flatMap (newline_not_mem_itemLines items (by simp) h)

theorem unbroken_of_readText {limit : Option Nat} {source : String} {items : List Node}
    (h : readText limit source = .ok items) : Unbroken items := by
  intro atom hatom
  have hreadable := Node.allReadable_iff_itemAtoms items |>.mp (allReadable_of_readText h)
  exact newline_not_mem_of_isWord (isReadableAtom_iff.mp (hreadable atom hatom)).1

/-- Two lists without line breaks in their atoms have the same outline exactly when they are the
same list up to what is cut off long atoms. What the reader gives has no line breaks. -/
theorem draw_eq_iff :
    (∀ first second : List Node, Unbroken first → Unbroken second →
      (draw first = draw second ↔ shortItems first = shortItems second)) ∧
    ∀ limit source items, readText limit source = .ok items → Unbroken items := by
  refine ⟨?_, fun _ _ _ => unbroken_of_readText⟩
  intro first second hfirst hsecond
  constructor
  · intro h
    have hlines := congrArg (fun text => Padded.lines text.toList) h
    simp only [lines_draw hfirst, lines_draw hsecond] at hlines
    exact itemLines_inj (List.append_cancel_right hlines)
  · intro h
    rw [← draw_shortItems first, h, draw_shortItems]

/-- Two atoms of the same first thirty characters are drawn alike, and an atom that looks like the
label of a list is not drawn as one. -/
theorem draw_look_alikes :
    let long := String.ofList (List.replicate 30 'a' ++ ['b'])
    let longer := String.ofList (List.replicate 30 'a' ++ ['c', 'd'])
    let read := [.list [.atom "☰"], .atom "2"]
    readText none "((☰)2)" = .ok read ∧ Unbroken read ∧
      draw [.list [], .atom long] = draw [.list [], .atom longer] ∧
      draw [.list [.atom "2 items"], .list []] ≠ draw [.list [.list [], .atom "☰ 0 items"]] := by
  intro long longer read
  have hread : readText none "((☰)2)" = .ok read := readText_ok_iff.mpr ⟨by decide +kernel, by simp⟩
  have hunbroken : ∀ items ∈ [[Node.list [], .atom long], [.list [], .atom longer],
      [.list [.atom "2 items"], .list []], [.list [.list [], .atom "☰ 0 items"]]],
      Unbroken items := by
    unfold Unbroken
    decide +kernel
  simp only [List.forall_mem_cons] at hunbroken
  obtain ⟨hlong, hlonger, hatom, hlist, -⟩ := hunbroken
  refine ⟨hread, draw_eq_iff.2 none _ _ hread, ?_, ?_⟩
  · exact (draw_eq_iff.1 _ _ hlong hlonger).mpr (by decide +kernel)
  · exact fun h => absurd ((draw_eq_iff.1 _ _ hatom hlist).mp h) (by decide +kernel)

end PlanText.Outline
