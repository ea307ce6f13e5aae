import PlanText.Proofs.Agreement
import PlanText.Proofs.Joining
import PlanText.Proofs.Positions

/-!
Comments against the reader. A line break parts a text into two that are scanned each for
itself, and of a comment nothing is left but the end of the token before it. Positions count
from the start of the line, so they do not tell how long a comment is either.
-/

namespace PlanText

open Text

/-- The tokens of a text, each with its position. -/
def positioned (source : String) : List (Token × Position) :=
  placed (Position.ofOffset source.toList) (scan source)

theorem positioned_eq (source : String) :
    positioned source = (slices source.toList).map fun s =>
      (s.token, Position.ofOffset source.toList s.start) := by
  simp [positioned, placed, scan, Slice.lexeme, Slice.span]

/-- A token keeps its position when the text goes on. -/
theorem position_append_of_mem {source : String} {s : Slice} (h : s ∈ slices source.toList)
    (more : List Char) :
    (s.token, Position.ofOffset (source.toList ++ more) s.start) =
      (s.token, Position.ofOffset source.toList s.start) := by
  rw [ofOffset_append (start_le_of_mem_slices h)]

/-- The tokens after a line break are those of the text after it, so many lines further. -/
theorem positioned_newline (a b : String) :
    positioned (a ++ "\n" ++ b) =
      positioned a ++ (positioned b).map fun (t, p) =>
        (t, ⟨a.toList.count '\n' + 1 + p.line, p.column⟩) := by
  have htext : (a ++ "\n" ++ b).toList = a.toList ++ '\n' :: b.toList := by simp
  simp only [positioned_eq, htext, Scanner.slices_newline, List.map_append, List.map_map]
  congr 1
  · exact List.map_congr_left fun s hs => position_append_of_mem hs _
  · apply List.map_congr_left
    intro s _
    have hplace := ofOffset_newline a.toList b.toList s.start
    simp only [Function.comp_apply, Slice.shift, hplace]
    rfl

theorem positioned_comment {c : String} (hc : '\n' ∉ c.toList) (a : String) :
    positioned (a ++ ";" ++ c) = positioned a := by
  have htext : (a ++ ";" ++ c).toList = a.toList ++ ';' :: c.toList := by simp
  simp only [positioned_eq, htext, Scanner.slices_comment hc]
  exact List.map_congr_left fun s hs => position_append_of_mem hs _

theorem tokens_eq_positioned (source : String) :
    tokens source = (positioned source).map Prod.fst := (fst_placed _ _).symm

theorem tokens_newline (a b : String) : tokens (a ++ "\n" ++ b) = tokens a ++ tokens b := by
  simp [tokens_eq_positioned, positioned_newline, Function.comp_def]

/-- A comment in the middle of a text leaves the tokens and positions of a line break. -/
theorem positioned_comment_newline {c : String} (hc : '\n' ∉ c.toList) (a b : String) :
    positioned (a ++ ";" ++ c ++ "\n" ++ b) = positioned (a ++ "\n" ++ b) := by
  have hbreaks : (a ++ ";" ++ c).toList.count '\n' = a.toList.count '\n' := by
    simp [List.count_eq_zero_of_not_mem hc]
  rw [positioned_newline, positioned_newline, positioned_comment hc, hbreaks]

/-- The text of a comment is never seen, wherever it starts: between tokens, inside one or in a
comment. A text is read the same, with the same fault at the same position, whatever its
comment says and also without it, and a comment that ends the text may be left out. This is
because the tokens on both sides of a line break are found each for itself. -/
theorem readText_comment (limit : Option Nat) (a b : String) {c c' : String}
    (hc : '\n' ∉ c.toList) (hc' : '\n' ∉ c'.toList) :
    readText limit (a ++ ";" ++ c ++ "\n" ++ b) = readText limit (a ++ ";" ++ c' ++ "\n" ++ b) ∧
      readText limit (a ++ ";" ++ c ++ "\n" ++ b) = readText limit (a ++ "\n" ++ b) ∧
      readText limit (a ++ ";" ++ c) = readText limit a ∧
      tokens (a ++ "\n" ++ b) = tokens a ++ tokens b ∧
      tokenTexts (a ++ "\n" ++ b) = tokenTexts a ++ tokenTexts b := by
  have hwithout : ∀ {d : String}, '\n' ∉ d.toList →
      readText limit (a ++ ";" ++ d ++ "\n" ++ b) = readText limit (a ++ "\n" ++ b) :=
    fun hd => readText_congr (positioned_comment_newline hd a b)
  refine ⟨?_, hwithout hc, readText_congr (positioned_comment hc a), tokens_newline a b, ?_⟩
  · rw [hwithout hc, hwithout hc']
  · simp [tokenTexts, tokens_newline]

/-- The comment cuts a token, holds what would be tokens, and comes before the fault. -/
theorem readText_comment_cut :
    '\n' ∉ "b) (?x\r; (".toList ∧ '\n' ∉ "".toList ∧
      readText (some 1) ("(A" ++ ";" ++ "b) (?x\r; (" ++ "\n" ++ "b (c))") =
        readText (some 1) ("(A" ++ ";" ++ "" ++ "\n" ++ "b (c))") ∧
      readText (some 1) ("(A" ++ ";" ++ "b) (?x\r; (" ++ "\n" ++ "b (c))") =
        .error (.tooDeep 1 ⟨1, 2⟩) := by
  have hc : '\n' ∉ "b) (?x\r; (".toList := by decide
  have hc' : '\n' ∉ "".toList := by decide
  obtain ⟨hsame, hwithout, _⟩ := readText_comment (some 1) "(A" "b (c))" hc hc'
  refine ⟨hc, hc', hsame, ?_⟩
  rw [hwithout]
  decide +kernel

end PlanText
