/-!
Places in a text. An offset counts bytes from the start of the text, a position gives the
line and the bytes from the start of that line, both from zero.
-/

namespace PlanText.Text

structure Position where
  line : Nat
  column : Nat
deriving DecidableEq, Repr, Inhabited

namespace Position

def text (p : Position) : String := s!"{p.line}:{p.column}"

/-- Earlier line first, and earlier column on one line. -/
def le (p q : Position) : Bool :=
  p.line < q.line || (p.line == q.line && p.column ≤ q.column)

instance : LT Position where
  lt p q := p.line < q.line ∨ p.line = q.line ∧ p.column < q.column

theorem lt_iff {p q : Position} :
    p < q ↔ p.line < q.line ∨ p.line = q.line ∧ p.column < q.column := Iff.rfl

theorem le_iff_not_lt {p q : Position} : p.le q = true ↔ ¬q < p := by
  simp only [le, Bool.or_eq_true, Bool.and_eq_true, decide_eq_true_eq, beq_iff_eq, lt_iff]
  omega

theorem not_lt_self (p : Position) : ¬p < p := by
  rw [lt_iff]
  omega

theorem not_lt_of_lt {p q : Position} (h : p < q) : ¬q < p := by
  rw [lt_iff] at h ⊢
  omega

end Position

end PlanText.Text
