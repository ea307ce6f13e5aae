import PlanText.Proofs.Scanning
import PlanText.Token.Padded

/-!
The scanner against the reading by padding. Padding works line by line and in several passes,
the scanner once from front to back. They are joined by what the scanner has in hand: the
characters of an unfinished token stand in front of the rest of the line, and inside a comment
the rest of the line is gone. One step of the scanner then is one character less to pad.
-/

namespace PlanText

open Text

namespace Padded

/-- What splitting at blanks gets to see of a line. -/
def padded (line : List Char) : List Char := (withoutComment line).flatMap pad

theorem stretches_ne_nil (divides : Char → Bool) (text : List Char) :
    stretches divides text ≠ [] := by
  cases text with
  | nil => simp [stretches]
  | cons c rest =>
      unfold stretches
      split
      · simp
      · split <;> simp

theorem stretches_append {divides : Char → Bool} {c : Char} (hc : divides c = true)
    (before after : List Char) :
    stretches divides (before ++ c :: after) =
      stretches divides before ++ stretches divides after := by
  induction before with
  | nil => simp [stretches, hc]
  | cons d rest ih =>
      rw [List.cons_append, stretches, stretches, ih]
      split
      · rfl
      · cases hrest : stretches divides rest with
        | nil => exact absurd hrest (stretches_ne_nil divides rest)
        | cons first others => rfl

theorem stretches_eq_singleton {divides : Char → Bool} {text : List Char}
    (h : ∀ c ∈ text, divides c = false) : stretches divides text = [text] := by
  induction text with
  | nil => rfl
  | cons c rest ih =>
      rw [stretches, ih fun d hd => h d (by simp [hd])]
      simp [h c (by simp)]

@[simp] theorem words_nil : words [] = [] := rfl

/-- A blank parts words, and belongs to none. -/
theorem words_append {b : Char} (hb : isBlank b = true) (before after : List Char) :
    words (before ++ b :: after) = words before ++ words after := by
  rw [words, stretches_append hb, List.filter_append]
  rfl

theorem words_eq_singleton {text : List Char} (hne : text ≠ [])
    (h : ∀ c ∈ text, isBlank c = false) : words text = [text] := by
  rw [words, stretches_eq_singleton h]
  simp [hne]

theorem lines_newline (text : List Char) : lines ('\n' :: text) = [] :: lines text := by
  simp [lines, stretches]

theorem lines_cons {c : Char} {text line : List Char} {others : List (List Char)}
    (hc : c ≠ '\n') (h : lines text = line :: others) :
    lines (c :: text) = (c :: line) :: others := by
  unfold lines at h ⊢
  rw [stretches, h]
  simp [hc]

/-- Lines without line breaks are found again in their text, with nothing after the last one. -/
theorem lines_flatMap {texts : List (List Char)} (h : ∀ line ∈ texts, '\n' ∉ line) :
    lines (texts.flatMap (· ++ ['\n'])) = texts ++ [[]] := by
  induction texts with
  | nil => rfl
  | cons line others ih =>
      have hone : stretches (· = '\n') line = [line] := by
        apply stretches_eq_singleton
        intro c hc
        have hne : c ≠ '\n' := by
          rintro rfl
          exact h _ (by simp) hc
        simpa using hne
      have hrest := ih fun other hother => h other (by simp [hother])
      rw [lines] at hrest ⊢
      rw [List.flatMap_cons, List.append_assoc, List.singleton_append,
        stretches_append (by decide), hone, hrest, List.singleton_append, List.cons_append]

theorem padded_semicolon (line : List Char) : padded (';' :: line) = [] := by
  simp [padded, withoutComment]

theorem padded_cons {c : Char} (hc : c ≠ ';') (line : List Char) :
    padded (c :: line) = pad c ++ padded line := by
  simp [padded, withoutComment, hc]

theorem pad_of_isBlank {c : Char} (h : isBlank c = true) : c ≠ ';' ∧ pad c = [c] := by
  have hne : ∀ d, isBlank d = false → c ≠ d := by
    rintro d hd rfl
    rw [h] at hd
    cases hd
  simp [pad, hne ';' (by decide), hne '(' (by decide), hne ')' (by decide),
    hne '?' (by decide)]

theorem pad_of_paren {c : Char} (h : CharKind.of c = .paren) :
    c ≠ ';' ∧ pad c = [' ', c, ' '] := by
  rcases CharKind.of_eq_paren.mp h with rfl | rfl <;> decide

theorem pad_of_plain {c : Char} (h : CharKind.of c = .plain) : c ≠ ';' ∧ pad c = [c] := by
  have hne : ∀ d, CharKind.of d ≠ .plain → c ≠ d := by
    rintro d hd rfl
    exact hd h
  simp [pad, hne ';' (by decide), hne '(' (by decide), hne ')' (by decide),
    hne '?' (by decide)]

end Padded

namespace Scanner

open Padded

/-- The characters that a mode holds of an unfinished token, in order. -/
def Mode.text : Mode → List Char
  | .inside _ chars => chars.reverse
  | _ => []

/-- The words that a mode and the rest of its line come to. -/
def Mode.words (mode : Mode) (line : List Char) : List (List Char) :=
  match mode with
  | .comment => []
  | mode => Padded.words (mode.text ++ padded line)

theorem Mode.words_of_ne {mode : Mode} (h : mode ≠ .comment) (line : List Char) :
    mode.words line = Padded.words (mode.text ++ padded line) := by
  cases mode with
  | gap => rfl
  | comment => exact absurd rfl h
  | inside start chars => rfl

theorem isBlank_of_isWord {word : List Char} (h : IsWord word) :
    ∀ c ∈ word, isBlank c = false := by
  cases word with
  | nil => exact h.elim
  | cons c rest =>
      have hplain : ∀ d, CharKind.of d = .question ∨ CharKind.of d = .plain →
          isBlank d = false := by
        intro d hd
        rw [← Bool.not_eq_true]
        intro hblank
        simp [CharKind.of, hblank] at hd
      intro d hd
      rcases List.mem_cons.mp hd with rfl | hrest
      · exact hplain d h.1
      · exact hplain d (Or.inr (h.2 d hrest))

theorem chars_pending {mode : Mode} (h : mode.Sound) :
    mode.pending.map Slice.chars = Padded.words mode.text := by
  cases mode with
  | gap => rfl
  | comment => rfl
  | inside start chars =>
      have hne : chars.reverse ≠ [] := by
        intro hnil
        rw [Mode.Sound, hnil] at h
        exact h
      rw [Mode.text, words_eq_singleton hne (isBlank_of_isWord h)]
      rfl

/-- The token at hand ends at a blank, at a parenthesis and before a question mark. -/
theorem words_text_append {mode : Mode} (h : mode.Sound) {b : Char}
    (hb : isBlank b = true) (text : List Char) :
    Padded.words (mode.text ++ b :: text) =
      mode.pending.map Slice.chars ++ Padded.words text := by
  rw [words_append hb, chars_pending h]

/-- One character of a line is one step: what the step finishes are the words that the
character parts from the rest. -/
theorem words_step {mode : Mode} (hmode : mode.Sound) (offset : Nat) {c : Char}
    (hc : c ≠ '\n') (line : List Char) :
    mode.words (c :: line) =
      (step ⟨offset, mode, []⟩ c).done.reverse.map Slice.chars ++
        (step ⟨offset, mode, []⟩ c).mode.words line := by
  by_cases hcomment : mode = .comment
  · subst hcomment
    simp [step, hc, Mode.words]
  · rw [Mode.words_of_ne hcomment, step_of_ne hcomment]
    cases hkind : CharKind.of c with
    | blank =>
        have hblank : isBlank c = true := CharKind.of_eq_blank.mp hkind
        obtain ⟨hsemicolon, hpad⟩ := pad_of_isBlank hblank
        rw [padded_cons hsemicolon, hpad, List.singleton_append,
          words_text_append hmode hblank]
        simp [Mode.words, Mode.text]
    | semicolon =>
        obtain rfl : c = ';' := CharKind.of_eq_semicolon.mp hkind
        rw [padded_semicolon, List.append_nil, ← chars_pending hmode]
        simp [Mode.words]
    | paren =>
        obtain ⟨hsemicolon, hpad⟩ := pad_of_paren hkind
        have hblank : isBlank c = false := by
          rcases CharKind.of_eq_paren.mp hkind with rfl | rfl <;> decide
        have hsingle : Padded.words [c] = [[c]] :=
          words_eq_singleton (by simp) (by simpa using hblank)
        have hword : Padded.words (c :: ' ' :: padded line) =
            [c] :: Padded.words (padded line) := by
          have happend := @words_append ' ' (by decide) [c] (padded line)
          rw [hsingle] at happend
          exact happend
        rw [padded_cons hsemicolon, hpad]
        simp only [List.cons_append, List.nil_append]
        rw [words_text_append hmode (by decide), hword]
        simp [Mode.words, Mode.text]
    | question =>
        obtain rfl : c = '?' := CharKind.of_eq_question.mp hkind
        have hpad : pad '?' = [' ', '?'] := by decide
        rw [padded_cons (by decide), hpad]
        simp only [List.cons_append, List.nil_append]
        rw [words_text_append hmode (by decide)]
        simp [Mode.words, Mode.text]
    | plain =>
        obtain ⟨hsemicolon, hpad⟩ := pad_of_plain hkind
        rw [padded_cons hsemicolon, hpad]
        cases mode with
        | comment => exact absurd rfl hcomment
        | gap => rfl
        | inside start chars => simp [Mode.words, Mode.text]

/-- A line break ends the line and the token at hand. -/
theorem words_newline {mode : Mode} (hmode : mode.Sound) (offset : Nat) :
    mode.words [] = (step ⟨offset, mode, []⟩ '\n').done.reverse.map Slice.chars ∧
      (step ⟨offset, mode, []⟩ '\n').mode = .gap := by
  by_cases hcomment : mode = .comment
  · subst hcomment
    exact ⟨rfl, rfl⟩
  · have hkind : CharKind.of '\n' = .blank := by decide
    rw [Mode.words_of_ne hcomment, step_of_ne hcomment, hkind]
    refine ⟨?_, rfl⟩
    simpa [padded, withoutComment] using (chars_pending hmode).symm

/-- The scan of the text ahead gives the words of the line at hand and of the lines after. -/
theorem chars_ahead {mode : Mode} {offset : Nat} {text line : List Char}
    {others : List (List Char)} (hmode : mode.Sound)
    (hlines : Padded.lines text = line :: others) :
    (ahead mode offset text).map Slice.chars =
      mode.words line ++ others.flatMap fun other => Padded.words (padded other) := by
  induction text generalizing mode offset line others with
  | nil =>
      obtain ⟨rfl, rfl⟩ : line = [] ∧ others = [] := by
        simpa [Padded.lines, stretches, eq_comm] using hlines
      rw [ahead, chars_pending hmode]
      cases mode <;> simp [Mode.words, Mode.text, padded, withoutComment]
  | cons c rest ih =>
      obtain ⟨first, more, hrest⟩ := List.exists_cons_of_ne_nil
        (stretches_ne_nil (· = '\n') rest)
      have hnext := (step_sound hmode offset c).1
      rw [ahead, List.map_append, ih hnext hrest]
      by_cases hc : c = '\n'
      · subst hc
        rw [lines_newline] at hlines
        obtain ⟨rfl, rfl⟩ := List.cons.inj hlines
        obtain ⟨hwords, hgap⟩ := words_newline hmode offset
        rw [← hwords, hgap, show Padded.lines rest = first :: more from hrest, List.flatMap_cons]
        rfl
      · rw [lines_cons hc hrest] at hlines
        obtain ⟨rfl, rfl⟩ := List.cons.inj hlines
        rw [words_step hmode offset hc, List.append_assoc]

end Scanner

/-- The tokens ahead do not depend on where the text stands. -/
theorem token_ahead (offset : Nat) (text : List Char) :
    (Scanner.ahead .gap offset text).map Slice.token = tokensOf text := by
  obtain ⟨line, others, hlines⟩ := List.exists_cons_of_ne_nil
    (Padded.stretches_ne_nil (· = '\n') text)
  have hchars : (Scanner.ahead .gap offset text).map Slice.chars =
      (Scanner.ahead .gap 0 text).map Slice.chars := by
    rw [Scanner.chars_ahead Scanner.sound_gap hlines,
      Scanner.chars_ahead Scanner.sound_gap hlines]
  have htoken : Slice.token = (fun chars => (Slice.mk 0 chars).token) ∘ Slice.chars := rfl
  rw [tokensOf_eq, htoken, ← List.map_map, ← List.map_map, hchars]

/-- One pass of the scanner gives the tokens that padding and splitting each line gives. -/
theorem tokenTexts_eq_padded (source : String) :
    tokenTexts source = Padded.tokenTexts source := by
  obtain ⟨line, others, hlines⟩ := List.exists_cons_of_ne_nil
    (Padded.stretches_ne_nil (· = '\n') source.toList)
  have hchars := @Scanner.chars_ahead .gap 0 _ _ _ Scanner.sound_gap hlines
  have htexts : tokenTexts source =
      ((Scanner.ahead .gap 0 source.toList).map Slice.chars).map
        fun chars => String.ofList (lower chars) := by
    simp [tokenTexts, tokens_eq, tokensOf_eq, Slice.text_token]
  rw [htexts, hchars, Padded.tokenTexts, Padded.lines, hlines]
  rfl

end PlanText
