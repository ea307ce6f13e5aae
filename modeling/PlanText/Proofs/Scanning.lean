import PlanText.Node.Readable
import PlanText.Proofs.LowerCase
import Mathlib.Tactic.Tauto

/-!
What a scanner finds, told from the text ahead of it. The scan folds one step over the text
and keeps finished tokens last one first. Here the same tokens are read off in order, by
recursion on the text, with one equation for each kind of character. From these equations
follow the shape of every token and that the text of a word survives a second scan.
-/

namespace PlanText

open Text

namespace CharKind

theorem of_eq_blank {c : Char} : CharKind.of c = .blank ↔ isBlank c = true := by
  unfold CharKind.of
  repeat' split
  all_goals simp_all

theorem of_eq_semicolon {c : Char} : CharKind.of c = .semicolon ↔ c = ';' := by
  constructor
  · intro h
    unfold CharKind.of at h
    repeat' split at h
    all_goals simp_all
  · rintro rfl
    decide

theorem of_eq_paren {c : Char} : CharKind.of c = .paren ↔ c = '(' ∨ c = ')' := by
  constructor
  · intro h
    unfold CharKind.of at h
    repeat' split at h
    all_goals simp_all
  · rintro (rfl | rfl) <;> decide

theorem of_eq_question {c : Char} : CharKind.of c = .question ↔ c = '?' := by
  constructor
  · intro h
    unfold CharKind.of at h
    repeat' split at h
    all_goals simp_all
  · rintro rfl
    decide

/-- A character is plain if it neither ends a token nor starts one that follows. -/
theorem of_eq_plain {c : Char} :
    CharKind.of c = .plain ↔ isDelimiter c = false ∧ c ≠ '?' := by
  by_cases hsemicolon : c = ';'
  · subst hsemicolon
    decide
  · by_cases hparen : c = '(' ∨ c = ')'
    · rcases hparen with rfl | rfl <;> decide
    · by_cases hquestion : c = '?'
      · subst hquestion
        decide
      · obtain ⟨hopen, hclose⟩ := not_or.mp hparen
        cases hblank : isBlank c <;>
          simp [CharKind.of, isDelimiter, hblank, hsemicolon, hopen, hclose, hquestion]

end CharKind

namespace Scanner

/-- The token that the mode leaves unfinished, as it stands if nothing continues it. -/
def Mode.pending : Mode → List Slice
  | .inside start chars => [⟨start, chars.reverse⟩]
  | _ => []

@[simp] theorem pending_gap : Mode.pending .gap = [] := rfl

@[simp] theorem pending_comment : Mode.pending .comment = [] := rfl

@[simp] theorem pending_inside (start : Nat) (chars : List Char) :
    Mode.pending (.inside start chars) = [⟨start, chars.reverse⟩] := rfl

@[simp] theorem reverse_pending (mode : Mode) : mode.pending.reverse = mode.pending := by
  cases mode <;> rfl

theorem flush_eq (s : Scanner) : s.flush = s.mode.pending ++ s.done := by
  rcases s with ⟨offset, mode, done⟩
  cases mode <;> rfl

/-- The slices that end in the text ahead, first one first. -/
def ahead (mode : Mode) (offset : Nat) : List Char → List Slice
  | [] => mode.pending
  | c :: rest =>
    let next := step ⟨offset, mode, []⟩ c
    next.done.reverse ++ ahead next.mode next.offset rest

/-- Outside comments a step goes by the kind of the character. -/
theorem step_of_ne {offset : Nat} {mode : Mode} {done : List Slice} {c : Char}
    (h : mode ≠ .comment) :
    step ⟨offset, mode, done⟩ c =
      let next := offset + c.utf8Size
      match CharKind.of c with
      | .blank => ⟨next, .gap, mode.pending ++ done⟩
      | .semicolon => ⟨next, .comment, mode.pending ++ done⟩
      | .paren => ⟨next, .gap, ⟨offset, [c]⟩ :: (mode.pending ++ done)⟩
      | .question => ⟨next, .inside offset [c], mode.pending ++ done⟩
      | .plain =>
        match mode with
        | .inside start chars => ⟨next, .inside start (c :: chars), done⟩
        | _ => ⟨next, .inside offset [c], done⟩ := by
  cases mode with
  | comment => exact absurd rfl h
  | gap => cases hkind : CharKind.of c <;> simp [step, hkind, flush]
  | inside start chars => cases hkind : CharKind.of c <;> simp [step, hkind, flush]

/-- A step only adds to what is finished. -/
theorem step_eq (s : Scanner) (c : Char) :
    step s c =
      let next := step ⟨s.offset, s.mode, []⟩ c
      ⟨next.offset, next.mode, next.done ++ s.done⟩ := by
  rcases s with ⟨offset, mode, done⟩
  cases mode <;> cases hkind : CharKind.of c <;> simp [step, hkind, flush]

theorem foldl_step (text : List Char) (s : Scanner) :
    (text.foldl step s).flush.reverse = s.done.reverse ++ ahead s.mode s.offset text := by
  induction text generalizing s with
  | nil => cases hmode : s.mode <;> simp [flush_eq, ahead, hmode]
  | cons c rest ih =>
      rw [List.foldl_cons, ih, step_eq s c]
      simp [ahead, List.append_assoc]

theorem slices_eq (text : List Char) : slices text = ahead .gap 0 text := by
  simpa [slices, init] using foldl_step text init

/-! One equation for each kind of character, outside of comments. -/

section Equations

variable {mode : Mode} {offset : Nat} {c : Char} {rest : List Char}

theorem ahead_blank (hmode : mode ≠ .comment) (hkind : CharKind.of c = .blank) :
    ahead mode offset (c :: rest) =
      mode.pending ++ ahead .gap (offset + c.utf8Size) rest := by
  simp [ahead, step_of_ne hmode, hkind]

theorem ahead_semicolon (hmode : mode ≠ .comment) (hkind : CharKind.of c = .semicolon) :
    ahead mode offset (c :: rest) =
      mode.pending ++ ahead .comment (offset + c.utf8Size) rest := by
  simp [ahead, step_of_ne hmode, hkind]

theorem ahead_paren (hmode : mode ≠ .comment) (hkind : CharKind.of c = .paren) :
    ahead mode offset (c :: rest) =
      mode.pending ++ ⟨offset, [c]⟩ :: ahead .gap (offset + c.utf8Size) rest := by
  simp [ahead, step_of_ne hmode, hkind]

theorem ahead_question (hmode : mode ≠ .comment) (hkind : CharKind.of c = .question) :
    ahead mode offset (c :: rest) =
      mode.pending ++ ahead (.inside offset [c]) (offset + c.utf8Size) rest := by
  simp [ahead, step_of_ne hmode, hkind]

theorem ahead_gap_plain (hkind : CharKind.of c = .plain) :
    ahead .gap offset (c :: rest) =
      ahead (.inside offset [c]) (offset + c.utf8Size) rest := by
  simp [ahead, step, hkind]

theorem ahead_inside_plain {start : Nat} {chars : List Char}
    (hkind : CharKind.of c = .plain) :
    ahead (.inside start chars) offset (c :: rest) =
      ahead (.inside start (c :: chars)) (offset + c.utf8Size) rest := by
  simp [ahead, step, hkind]

end Equations

end Scanner

/-- The characters of a token that is no parenthesis: only the first may be a question mark,
all others are plain. -/
def IsWord : List Char → Prop
  | [] => False
  | c :: rest =>
    (CharKind.of c = .question ∨ CharKind.of c = .plain) ∧
      ∀ d ∈ rest, CharKind.of d = .plain

theorem IsWord.snoc {word : List Char} {c : Char} (h : IsWord word)
    (hc : CharKind.of c = .plain) : IsWord (word ++ [c]) := by
  cases word with
  | nil => exact h.elim
  | cons d rest =>
      refine ⟨h.1, ?_⟩
      intro e he
      rcases List.mem_append.mp he with hrest | hlast
      · exact h.2 e hrest
      · rw [List.mem_singleton.mp hlast]
        exact hc

/-- The atoms that scanning gives back are the words in lower case. -/
theorem isReadableAtom_iff {text : List Char} :
    isReadableAtom text = true ↔ IsWord text ∧ lower text = text := by
  cases text with
  | nil => simp [isReadableAtom, IsWord]
  | cons c rest =>
      have hfirst : (CharKind.of c = .question ∨ CharKind.of c = .plain) ↔
          isDelimiter c = false := by
        rw [CharKind.of_eq_question, CharKind.of_eq_plain]
        by_cases hc : c = '?'
        · subst hc
          decide
        · simp [hc]
      have hothers : (∀ d ∈ rest, CharKind.of d = .plain) ↔
          (∀ d ∈ rest, isDelimiter d = false) ∧ ∀ d ∈ rest, d ≠ '?' := by
        simp only [CharKind.of_eq_plain]
        exact forall₂_and
      simp only [isReadableAtom, IsWord, hfirst, hothers]
      simp [List.all_eq_true]
      tauto

/-- Lower case keeps a word a word: it makes no character that is not plain, and it leaves a
question mark in front. -/
theorem isWord_lower {word : List Char} (h : IsWord word) : IsWord (lower word) := by
  cases word with
  | nil => exact h.elim
  | cons c rest =>
      obtain ⟨hfirst, hrest⟩ := h
      rcases hfirst with hquestion | hplain
      · have hlower : lower (c :: rest) = c :: lowerAfter [c] rest :=
          lowerAfter_cons_of_not_plain (by simp [hquestion])
        rw [hlower]
        exact ⟨Or.inl hquestion, fun d hd => plain_of_mem_lowerAfter hrest hd⟩
      · have hall : ∀ d ∈ c :: rest, CharKind.of d = .plain :=
          List.forall_mem_cons.mpr ⟨hplain, hrest⟩
        have hplains : ∀ d ∈ lower (c :: rest), CharKind.of d = .plain :=
          fun d hd => plain_of_mem_lowerAfter hall hd
        cases hlower : lower (c :: rest) with
        | nil => exact lowerAfter_ne_nil (List.cons_ne_nil c rest) hlower
        | cons d others =>
            rw [hlower] at hplains
            exact ⟨Or.inr (hplains d (by simp)), fun e he => hplains e (by simp [he])⟩

theorem isReadableAtom_lower {word : List Char} (h : IsWord word) :
    isReadableAtom (lower word) = true :=
  isReadableAtom_iff.mpr ⟨isWord_lower h, lower_lower word⟩

namespace Slice

/-- The token of a slice has the text of the slice, in lower case. -/
theorem text_token (s : Slice) : s.token.text = String.ofList (lower s.chars) := by
  unfold Slice.token
  split
  · next hchars =>
      have hlower : lower ['('] = ['('] := lowerAfter_cons_of_not_plain (by decide)
      rw [hchars, hlower]
      rfl
  · next hchars =>
      have hlower : lower [')'] = [')'] := lowerAfter_cons_of_not_plain (by decide)
      rw [hchars, hlower]
      rfl
  · rfl
  · rfl

theorem token_of_isWord {s : Slice} (h : IsWord s.chars) :
    s.token = Token.ofAtom (String.ofList (lower s.chars)) := by
  rcases s with ⟨start, chars⟩
  cases chars with
  | nil => exact h.elim
  | cons c rest =>
      rcases h.1 with hquestion | hplain
      · have hc := CharKind.of_eq_question.mp hquestion
        subst hc
        have hlower : lower ('?' :: rest) = '?' :: lowerAfter ['?'] rest :=
          lowerAfter_cons_of_not_plain (by decide)
        simp [Slice.token, Token.ofAtom, hlower]
      · have hall : ∀ d ∈ c :: rest, CharKind.of d = .plain :=
          List.forall_mem_cons.mpr ⟨hplain, h.2⟩
        have hopen : c ≠ '(' := by
          rintro rfl
          exact absurd hplain (by decide)
        have hclose : c ≠ ')' := by
          rintro rfl
          exact absurd hplain (by decide)
        have hquestion : c ≠ '?' := (CharKind.of_eq_plain.mp hplain).2
        have hhead : ∀ others, lower (c :: rest) ≠ '?' :: others := by
          intro others hlower
          have hmem : '?' ∈ lower (c :: rest) := by simp [hlower]
          exact absurd (plain_of_mem_lowerAfter hall hmem) (by decide)
        simp [Slice.token, Token.ofAtom, hopen, hclose, hquestion]

end Slice

/-- A slice is a word or a single parenthesis. -/
def Slice.Shaped (s : Slice) : Prop :=
  IsWord s.chars ∨ s.chars = ['('] ∨ s.chars = [')']

/-- What a scanner keeps true of the token that it stands in. -/
def Scanner.Mode.Sound : Scanner.Mode → Prop
  | .inside _ chars => IsWord chars.reverse
  | _ => True

namespace Scanner

theorem sound_gap : Mode.Sound .gap := trivial

theorem sound_comment : Mode.Sound .comment := trivial

theorem shaped_of_mem_pending {mode : Mode} {s : Slice} (hmode : mode.Sound)
    (h : s ∈ mode.pending) : s.Shaped := by
  cases mode with
  | inside start chars =>
      rw [pending_inside, List.mem_singleton] at h
      rw [h]
      exact Or.inl hmode
  | gap => simp at h
  | comment => simp at h

/-- A step keeps the token at hand a word, and finishes words and parentheses only. -/
theorem step_sound {mode : Mode} (hmode : mode.Sound) (offset : Nat) (c : Char) :
    (step ⟨offset, mode, []⟩ c).mode.Sound ∧
      ∀ s ∈ (step ⟨offset, mode, []⟩ c).done, s.Shaped := by
  by_cases hcomment : mode = .comment
  · subst hcomment
    simp only [step]
    split
    · exact ⟨sound_gap, by simp⟩
    · exact ⟨sound_comment, by simp⟩
  · have hpending : ∀ s ∈ mode.pending ++ [], s.Shaped := by
      intro s hs
      rw [List.append_nil] at hs
      exact shaped_of_mem_pending hmode hs
    rw [step_of_ne hcomment]
    cases hkind : CharKind.of c with
    | blank => exact ⟨sound_gap, hpending⟩
    | semicolon => exact ⟨sound_comment, hpending⟩
    | paren =>
        refine ⟨sound_gap, List.forall_mem_cons.mpr ⟨?_, hpending⟩⟩
        right
        simpa using CharKind.of_eq_paren.mp hkind
    | question => exact ⟨⟨Or.inl hkind, by simp⟩, hpending⟩
    | plain =>
        cases mode with
        | comment => exact absurd rfl hcomment
        | gap => exact ⟨⟨Or.inr hkind, by simp⟩, by simp⟩
        | inside start chars =>
            refine ⟨?_, by simp⟩
            simpa [Mode.Sound] using IsWord.snoc hmode hkind

theorem shaped_of_mem_ahead {mode : Mode} {offset : Nat} {text : List Char} {s : Slice}
    (hmode : mode.Sound) (h : s ∈ ahead mode offset text) : s.Shaped := by
  induction text generalizing mode offset with
  | nil => exact shaped_of_mem_pending hmode h
  | cons c rest ih =>
      obtain ⟨hnext, hdone⟩ := step_sound hmode offset c
      rw [ahead, List.mem_append, List.mem_reverse] at h
      rcases h with hfinished | hrest
      · exact hdone s hfinished
      · exact ih hnext hrest

/-- Whether the text ahead does not continue a token: it is at its end, or a character comes
that ends tokens or starts one. -/
def Parted (text : List Char) : Prop := ∀ c ∈ text.head?, CharKind.of c ≠ .plain

theorem parted_cons {c : Char} {rest : List Char} (h : CharKind.of c ≠ .plain) :
    Parted (c :: rest) := by
  simpa [Parted] using h

/-- What does not continue a token is read as after a gap. -/
theorem ahead_of_parted {mode : Mode} {offset : Nat} {text : List Char}
    (hmode : mode ≠ .comment) (h : Parted text) :
    ahead mode offset text = mode.pending ++ ahead .gap offset text := by
  cases text with
  | nil => simp [ahead]
  | cons c rest =>
      have hgap : Mode.gap ≠ .comment := by simp
      cases hkind : CharKind.of c with
      | blank => simp [ahead_blank hmode hkind, ahead_blank hgap hkind]
      | semicolon => simp [ahead_semicolon hmode hkind, ahead_semicolon hgap hkind]
      | paren => simp [ahead_paren hmode hkind, ahead_paren hgap hkind]
      | question => simp [ahead_question hmode hkind, ahead_question hgap hkind]
      | plain => exact absurd hkind (h c rfl)

/-- Plain characters continue the token before them. -/
theorem ahead_plains {start : Nat} {chars plains rest : List Char} {offset : Nat}
    (h : ∀ c ∈ plains, CharKind.of c = .plain) :
    ahead (.inside start chars) offset (plains ++ rest) =
      ahead (.inside start (plains.reverse ++ chars)) (offset + utf8Length plains) rest := by
  induction plains generalizing chars offset with
  | nil => rfl
  | cons c others ih =>
      rw [List.cons_append, ahead_inside_plain (h c (by simp)),
        ih fun d hd => h d (by simp [hd])]
      simp [utf8Length, Nat.add_assoc]

/-- A word in a gap is a token, up to where its end shows. -/
theorem ahead_word {word rest : List Char} {offset : Nat} (h : IsWord word) :
    ahead .gap offset (word ++ rest) =
      ahead (.inside offset word.reverse) (offset + utf8Length word) rest := by
  cases word with
  | nil => exact h.elim
  | cons c others =>
      have hfirst : ahead .gap offset (c :: (others ++ rest)) =
          ahead (.inside offset [c]) (offset + c.utf8Size) (others ++ rest) := by
        rcases h.1 with hquestion | hplain
        · exact ahead_question (by simp) hquestion
        · exact ahead_gap_plain hplain
      rw [List.cons_append, hfirst, ahead_plains h.2]
      simp [utf8Length, Nat.add_assoc]

end Scanner

/-- The tokens of the text that these characters make up. -/
def tokensOf (text : List Char) : List Token := (slices text).map Slice.token

theorem tokens_eq (source : String) : tokens source = tokensOf source.toList := by
  simp [tokens, scan, tokensOf, Slice.lexeme]

theorem tokensOf_eq (text : List Char) :
    tokensOf text = (Scanner.ahead .gap 0 text).map Slice.token := by
  rw [tokensOf, Scanner.slices_eq]

/-- A token of a text is a parenthesis or is what a readable atom is written as. -/
theorem token_cases {source : String} {t : Token} (h : t ∈ tokens source) :
    t = .lparen ∨ t = .rparen ∨
      ∃ atom, t = Token.ofAtom atom ∧ isReadableAtom atom.toList = true := by
  rw [tokens_eq, tokensOf_eq, List.mem_map] at h
  obtain ⟨s, hmem, rfl⟩ := h
  rcases Scanner.shaped_of_mem_ahead Scanner.sound_gap hmem with hword | hopen | hclose
  · right
    right
    refine ⟨String.ofList (lower s.chars), Slice.token_of_isWord hword, ?_⟩
    rw [String.toList_ofList]
    exact isReadableAtom_lower hword
  · simp [Slice.token, hopen]
  · simp [Slice.token, hclose]

end PlanText
