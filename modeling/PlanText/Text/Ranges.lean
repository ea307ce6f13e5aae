/-!
Classes of characters, given as tables of ranges of code points. The blank characters, which
separate tokens, are Unicode white space and the four information separators.
-/

namespace PlanText.Text

/-- The code points from the first to the second number, both included. -/
abbrev CodeRange := Nat × Nat

def CodeRange.contains (range : CodeRange) (code : Nat) : Bool :=
  Nat.ble range.1 code && Nat.ble code range.2

def inRanges (table : List CodeRange) (code : Nat) : Bool :=
  table.any (·.contains code)

theorem inRanges_iff {table : List CodeRange} {code : Nat} :
    inRanges table code = true ↔ ∃ range ∈ table, range.1 ≤ code ∧ code ≤ range.2 := by
  simp [inRanges, CodeRange.contains, List.any_eq_true]

def blankRanges : List CodeRange := [
  (0x9, 0xD), (0x1C, 0x20), (0x85, 0x85), (0xA0, 0xA0), (0x1680, 0x1680), (0x2000, 0x200A),
  (0x2028, 0x2029), (0x202F, 0x202F), (0x205F, 0x205F), (0x3000, 0x3000)]

def isBlank (c : Char) : Bool := inRanges blankRanges c.toNat

end PlanText.Text
