import PlanText.Proofs.Positions

/-!
The offsets of a text against its positions. Every offset has a position, also inside a
character and beyond the end: the line is the number of line breaks before the offset, and
the column adds up to the offset with the place just after the last of them. So no two offsets
share a position, and positions come in the order of their offsets.
-/

namespace PlanText.Text

namespace LineTable

variable {t : LineTable} {a b : Nat}

theorem IsLineOf.line_le {lineOfA startOfA lineOfB startOfB : Nat}
    (ha : t.IsLineOf a lineOfA startOfA) (hb : t.IsLineOf b lineOfB startOfB) (h : a ≤ b) :
    lineOfA ≤ lineOfB := by
  apply Nat.le_of_not_lt
  intro hlater
  -- The line after that of `b` would start at `a` or before.
  have hsize : lineOfB + 1 < t.starts.size := by
    obtain ⟨hbound, _⟩ := Array.getElem?_eq_some_iff.mp ha.starts_line
    omega
  have hnext := Array.getElem?_eq_getElem hsize
  have hbeyond : b < t.starts[lineOfB + 1] := hb.lt_next _ hnext
  have hreached : t.starts[lineOfB + 1] ≤ startOfA := by
    rcases Nat.lt_or_eq_of_le hlater with hlt | rfl
    · exact Nat.le_of_lt (lt_of_starts hnext ha.starts_line hlt)
    · exact Nat.le_of_eq (Option.some.inj (hnext.symm.trans ha.starts_line))
  have hle := ha.le_offset
  omega

theorem position_lt (t : LineTable) (h : a < b) : t.position a < t.position b := by
  obtain ⟨lineOfA, startOfA, ha, hplaceA⟩ := t.exists_position_eq a
  obtain ⟨lineOfB, startOfB, hb, hplaceB⟩ := t.exists_position_eq b
  rw [hplaceA, hplaceB, Position.lt_iff]
  rcases Nat.lt_or_eq_of_le (ha.line_le hb (Nat.le_of_lt h)) with hearlier | rfl
  · exact Or.inl hearlier
  · right
    obtain rfl : startOfA = startOfB := Option.some.inj (ha.starts_line.symm.trans hb.starts_line)
    have hle := ha.le_offset
    refine ⟨rfl, ?_⟩
    show a - startOfA < b - startOfA
    omega

theorem position_lt_iff (t : LineTable) : t.position a < t.position b ↔ a < b := by
  constructor
  · intro h
    rcases Nat.lt_trichotomy a b with hlt | rfl | hgt
    · exact hlt
    · exact absurd h (Position.not_lt_self _)
    · exact absurd h (Position.not_lt_of_lt (t.position_lt hgt))
  · exact t.position_lt

theorem position_le_iff (t : LineTable) : (t.position a).le (t.position b) = true ↔ a ≤ b := by
  rw [Position.le_iff_not_lt, position_lt_iff, Nat.not_lt]

theorem position_inj (t : LineTable) : t.position a = t.position b ↔ a = b := by
  constructor
  · intro h
    rcases Nat.lt_trichotomy a b with hlt | heq | hgt
    · exact absurd (h ▸ t.position_lt hlt) (Position.not_lt_self _)
    · exact heq
    · exact absurd (h ▸ t.position_lt hgt) (Position.not_lt_self _)
  · exact congrArg t.position

end LineTable

theorem lineStart_le (before : List UInt8) : lineStart before ≤ before.length :=
  (List.rdropWhile_prefix _ before).length_le

/-- The line of an offset starts just after the last line break before it. -/
theorem isLineOf_lineStart (text : List Char) (offset : Nat) :
    let before := (utf8Bytes text).take offset
    (LineTable.ofText text).IsLineOf offset (before.count lineBreak) (lineStart before) := by
  intro before
  obtain ⟨line, start, hline, hposition⟩ := (LineTable.ofText text).exists_position_eq offset
  have hcounted : (LineTable.ofText text).position offset =
      ⟨before.count lineBreak, offset - lineStart before⟩ := ofOffset_eq_counted text offset
  obtain ⟨rfl, hcolumn⟩ : line = before.count lineBreak ∧
      offset - start = offset - lineStart before := by
    simpa using hposition.symm.trans hcounted
  have hbefore : lineStart before ≤ offset :=
    Nat.le_trans (lineStart_le before) (List.length_take_le _ _)
  have hstart := hline.le_offset
  obtain rfl : start = lineStart before := by omega
  exact hline

/-- Placing an offset neither leaves the table of lines nor goes below zero. -/
theorem ofOffset_exact (source : String) :
    (∀ offset,
      (LineTable.ofText source.toList).position? offset =
          some (Position.ofOffset source.toList offset) ∧
        let before := source.toUTF8.data.toList.take offset
        let place := Position.ofOffset source.toList offset
        place.line = before.count lineBreak ∧
          (LineTable.ofText source.toList).starts[place.line]? = some (lineStart before) ∧
          lineStart before + place.column = offset) ∧
      ∀ a b,
        let place := Position.ofOffset source.toList
        (place a = place b ↔ a = b) ∧ (place a < place b ↔ a < b) ∧
          ((place a).le (place b) = true ↔ a ≤ b) := by
  constructor
  · intro offset
    refine ⟨LineTable.position?_eq_some _ offset, ?_⟩
    intro before place
    have hline := isLineOf_lineStart source.toList offset
    have hplace : place = Position.counted source.toList offset :=
      ofOffset_eq_counted source.toList offset
    rw [Position.counted] at hplace
    simp only [utf8Bytes_toList] at hline hplace
    rw [hplace]
    exact ⟨rfl, hline.starts_line, Nat.add_sub_of_le hline.le_offset⟩
  · intro a b place
    exact ⟨LineTable.position_inj _, LineTable.position_lt_iff _, LineTable.position_le_iff _⟩

example : [1, 2, 3, 9].map (Position.ofOffset "é\n".toList) =
    [⟨0, 1⟩, ⟨0, 2⟩, ⟨1, 0⟩, ⟨1, 6⟩] := by cbv

end PlanText.Text
