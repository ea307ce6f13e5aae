import PlanText.Proofs.Agreement
import PlanText.Proofs.Joining
import PlanText.Proofs.Positions

/-!
Letter case against the reader. The lower case form of a character can hang on the letters
around it, but what parts tokens also ends the search for those letters, so a text may be put
into lower case piece by piece, and each of its tokens alone.
-/

namespace PlanText

open Text

namespace Text

open Scanner

/-! Lower case at the characters that part tokens. -/

def disjoint (table other : List CodeRange) : Bool :=
  table.all fun range => other.all fun off => Nat.blt range.2 off.1 || Nat.blt off.2 range.1

theorem inRanges_eq_false_of_disjoint {table other : List CodeRange} {code : Nat}
    (hdisjoint : disjoint table other = true) (hcode : inRanges table code = true) :
    inRanges other code = false := by
  obtain ⟨range, hmem, hlow, hhigh⟩ := inRanges_iff.mp hcode
  rw [← Bool.not_eq_true, inRanges_iff]
  rintro ⟨off, hoff, hofflow, hoffhigh⟩
  have happart := List.all_eq_true.mp (List.all_eq_true.mp hdisjoint range hmem) off hoff
  simp only [Bool.or_eq_true, Nat.blt_eq] at happart
  omega

/-- The characters that are not plain. -/
def partingRanges : List CodeRange :=
  ('('.toNat, ')'.toNat) :: (';'.toNat, ';'.toNat) :: ('?'.toNat, '?'.toNat) :: blankRanges

theorem partingRanges_checked :
    (disjoint partingRanges caseIgnorableRanges && disjoint partingRanges casedRanges) = true := by
  decide +kernel

theorem parting_of_not_plain {c : Char} (h : CharKind.of c ≠ .plain) :
    inRanges partingRanges c.toNat = true := by
  obtain ⟨range, hmem, hlow, hhigh⟩ := inRanges_iff.mp (reserved_of_not_plain h)
  have hreserved : reservedRanges = (0xD800, 0xDFFF) :: (0x130, 0x130) :: partingRanges := rfl
  rw [hreserved, List.mem_cons, List.mem_cons] at hmem
  rcases hmem with rfl | rfl | hmem
  · have hvalid := c.valid
    simp only [UInt32.isValidChar, Nat.isValidChar] at hvalid
    have hcode : c.toNat = c.val.toNat := rfl
    simp only [hcode] at hlow hhigh
    omega
  · have hdot : c = '\u0130' := Char.toNat_inj.mp (Nat.le_antisymm hhigh hlow)
    subst hdot
    exact absurd h (by decide)
  · exact inRanges_iff.mpr ⟨range, hmem, hlow, hhigh⟩

theorem uncased_of_not_plain {c : Char} (h : CharKind.of c ≠ .plain) :
    isCaseIgnorable c = false ∧ isCased c = false := by
  have hcode := parting_of_not_plain h
  obtain ⟨hignorable, hcased⟩ := Bool.and_eq_true_iff.mp partingRanges_checked
  exact ⟨inRanges_eq_false_of_disjoint hignorable hcode,
    inRanges_eq_false_of_disjoint hcased hcode⟩

theorem startsCased_of_parted {text : List Char} (h : Parted text) :
    startsCased text = false := by
  cases text with
  | nil => rfl
  | cons c rest =>
      obtain ⟨hignorable, hcased⟩ := uncased_of_not_plain (h c rfl)
      simp [startsCased, hignorable, hcased]

theorem startsCased_append {rest : List Char} (h : Parted rest) (text : List Char) :
    startsCased (text ++ rest) = startsCased text := by
  induction text with
  | nil => exact startsCased_of_parted h
  | cons c more ih =>
      cases hignorable : isCaseIgnorable c with
      | true => simpa [startsCased, hignorable] using ih
      | false => simp [startsCased, hignorable]

theorem lowerAfter_append {rest : List Char} (h : Parted rest) (before text : List Char) :
    lowerAfter before (text ++ rest) =
      lowerAfter before text ++ lowerAfter (text.reverse ++ before) rest := by
  induction text generalizing before with
  | nil => rfl
  | cons c more ih =>
      have hform : lowerBetween before c (more ++ rest) = lowerBetween before c more := by
        simp [lowerBetween, isWordFinal, startsCased_append h]
      rw [List.cons_append, lowerAfter_cons, lowerAfter_cons, hform, ih]
      simp

/-- What stands before a character that is not plain has no part in what comes after it. -/
theorem lowerAfter_of_parted {outside : List Char} (h : Parted outside)
    (before text : List Char) :
    lowerAfter (before ++ outside) text = lowerAfter before text := by
  induction text generalizing before with
  | nil => rfl
  | cons c rest ih =>
      have hform : lowerBetween (before ++ outside) c rest = lowerBetween before c rest := by
        simp [lowerBetween, isWordFinal, startsCased_append h]
      rw [lowerAfter_cons, lowerAfter_cons, hform, ← List.cons_append, ih]

theorem lower_cons {c : Char} (h : CharKind.of c ≠ .plain) (rest : List Char) :
    lower (c :: rest) = c :: lower rest := by
  rw [lower, lowerAfter_cons_of_not_plain h]
  exact congrArg (c :: ·) (lowerAfter_of_parted (parted_cons h) [] rest)

/-- A text may be cut before a character that is not plain, and each part be put into lower
case alone. -/
theorem lower_append {rest : List Char} (h : Parted rest) (text : List Char) :
    lower (text ++ rest) = lower text ++ lower rest := by
  rw [lower, lowerAfter_append h]
  congr 1
  cases rest with
  | nil => rfl
  | cons c more =>
      have hc := h c rfl
      rw [lower_cons hc, lowerAfter_cons_of_not_plain hc]
      exact congrArg (c :: ·) (lowerAfter_of_parted (parted_cons hc) [] more)

theorem parted_lower {text : List Char} (h : Parted text) : Parted (lower text) := by
  cases text with
  | nil => exact h
  | cons c rest =>
      rw [lower_cons (h c rfl)]
      exact parted_cons (h c rfl)

/-- Lower case makes no line break. -/
theorem newline_not_mem_lower {text : List Char} (h : '\n' ∉ text) : '\n' ∉ lower text :=
  fun hmem => h (mem_of_mem_lowerAfter hmem (by decide))

end Text

/-! A text piece by piece. -/

namespace Scanner

/-- The text ahead is at its end or at a line break. -/
def AtBreak (text : List Char) : Prop := ∀ c ∈ text.head?, c = '\n'

theorem AtBreak.parted {text : List Char} (h : AtBreak text) : Parted text := by
  intro c hc
  rw [h c hc]
  decide

/-- A comment ends where its line does. -/
theorem AtBreak.ahead_comment {text : List Char} (h : AtBreak text) (offset : Nat) :
    ahead .comment offset text = ahead .gap offset text := by
  cases text with
  | nil => rfl
  | cons c rest =>
      obtain rfl := h c rfl
      rw [ahead_newline, ahead_newline, pending_comment, pending_gap]

theorem AtBreak.lower {text : List Char} (h : AtBreak text) : AtBreak (Text.lower text) := by
  cases text with
  | nil => exact h
  | cons c rest =>
      obtain rfl := h c rfl
      rw [lower_cons (by decide)]
      exact fun d hd => h d hd

/-- A text is made of blanks, parentheses, comments up to the end of their line, and words as
long as they go. -/
theorem pieces_induction {motive : List Char → Prop} (nil : motive [])
    (blank : ∀ c rest, CharKind.of c = .blank → motive rest → motive (c :: rest))
    (paren : ∀ c rest, CharKind.of c = .paren → motive rest → motive (c :: rest))
    (comment : ∀ comment rest, '\n' ∉ comment → AtBreak rest → motive rest →
      motive (';' :: (comment ++ rest)))
    (word : ∀ word rest, IsWord word → Parted rest → motive rest → motive (word ++ rest))
    (text : List Char) : motive text := by
  -- On the length, since a comment and a word are taken off as a whole.
  induction hlength : text.length using Nat.strong_induction_on generalizing text with
  | _ n ih =>
  cases text with
  | nil => exact nil
  | cons c rest =>
      have hrest : ∀ suffix : List Char, suffix.length ≤ rest.length → motive suffix := by
        intro suffix hle
        refine ih suffix.length ?_ suffix rfl
        rw [← hlength, List.length_cons]
        omega
      have hword : CharKind.of c = .question ∨ CharKind.of c = .plain → motive (c :: rest) := by
        intro hkind
        have hplain : ∀ d ∈ rest.takeWhile (CharKind.of · = .plain), CharKind.of d = .plain :=
          fun d hd => by simpa using List.mem_takeWhile_imp hd
        have hparted : Parted (rest.dropWhile (CharKind.of · = .plain)) := by
          intro d hd
          have hhead := List.head?_dropWhile_not (CharKind.of · = .plain) rest
          rw [Option.mem_def.mp hd] at hhead
          simpa using hhead
        have hpiece := word (c :: rest.takeWhile (CharKind.of · = .plain))
          (rest.dropWhile (CharKind.of · = .plain)) ⟨hkind, hplain⟩ hparted
          (hrest _ (List.length_dropWhile_le _ _))
        rwa [List.cons_append, List.takeWhile_append_dropWhile] at hpiece
      cases hkind : CharKind.of c with
      | blank => exact blank c rest hkind (hrest rest (Nat.le_refl _))
      | paren => exact paren c rest hkind (hrest rest (Nat.le_refl _))
      | question => exact hword (Or.inl hkind)
      | plain => exact hword (Or.inr hkind)
      | semicolon =>
          obtain rfl := CharKind.of_eq_semicolon.mp hkind
          have hbreak : AtBreak (rest.dropWhile (· ≠ '\n')) := by
            intro d hd
            have hhead := List.head?_dropWhile_not (· ≠ '\n') rest
            rw [Option.mem_def.mp hd] at hhead
            simpa using hhead
          have hpiece := comment (rest.takeWhile (· ≠ '\n')) (rest.dropWhile (· ≠ '\n'))
            (fun hmem => by simpa using List.mem_takeWhile_imp hmem) hbreak
            (hrest _ (List.length_dropWhile_le _ _))
          rwa [List.takeWhile_append_dropWhile] at hpiece

end Scanner

/-! The tokens of a text and their lines. -/

theorem newline_not_mem_of_isWord {word : List Char} (h : IsWord word) : '\n' ∉ word := by
  have hblank : CharKind.of '\n' = .blank := by decide
  cases word with
  | nil => exact h.elim
  | cons c rest =>
      obtain ⟨hfirst, hothers⟩ := h
      rw [List.mem_cons, not_or]
      constructor
      · rintro rfl
        simp [hblank] at hfirst
      · intro hmem
        simpa [hblank] using hothers _ hmem

/-- The tokens of a text that stands after another, each with its line. -/
def lined (before text : List Char) : List (Token × Nat) :=
  (Scanner.ahead .gap (utf8Length before) text).map fun s =>
    (s.token, (Position.ofOffset (before ++ text) s.start).line)

section Lines

variable {before rest : List Char} {c : Char}

theorem lined_append {piece : List Char}
    (h : Scanner.ahead .gap (utf8Length before) (piece ++ rest) =
      Scanner.ahead .gap (utf8Length (before ++ piece)) rest) :
    lined before (piece ++ rest) = lined (before ++ piece) rest := by
  rw [lined, lined, h, List.append_assoc]

theorem lined_token {piece : List Char}
    (h : Scanner.ahead .gap (utf8Length before) (piece ++ rest) =
      ⟨utf8Length before, piece⟩ :: Scanner.ahead .gap (utf8Length (before ++ piece)) rest) :
    lined before (piece ++ rest) =
      ((Slice.mk 0 piece).token, before.count '\n') :: lined (before ++ piece) rest := by
  have hline := line_ofOffset before (piece ++ rest)
  rw [lined, lined, h, List.map_cons, hline, List.append_assoc]
  rfl

theorem lined_blank (h : CharKind.of c = .blank) :
    lined before (c :: rest) = lined (before ++ [c]) rest := by
  apply @lined_append before rest [c]
  rw [List.singleton_append, Scanner.ahead_blank (by simp) h]
  simp [utf8Length]

theorem lined_paren (h : CharKind.of c = .paren) :
    lined before (c :: rest) =
      ((Slice.mk 0 [c]).token, before.count '\n') :: lined (before ++ [c]) rest := by
  apply @lined_token before rest [c]
  rw [List.singleton_append, Scanner.ahead_paren (by simp) h]
  simp [utf8Length]

theorem lined_comment {comment : List Char} (h : '\n' ∉ comment) (hrest : Scanner.AtBreak rest) :
    lined before (';' :: (comment ++ rest)) = lined (before ++ ';' :: comment) rest := by
  apply @lined_append before rest (';' :: comment)
  rw [List.cons_append, Scanner.ahead_semicolon (by simp) (by decide), Scanner.ahead_comment h]
  have hoffset : utf8Length before + ';'.utf8Size + utf8Length comment =
      utf8Length (before ++ ';' :: comment) := by
    simp [utf8Length, Nat.add_assoc]
  rw [hoffset, Scanner.pending_gap, List.nil_append, hrest.ahead_comment]

theorem lined_word {word : List Char} (h : IsWord word) (hrest : Scanner.Parted rest) :
    lined before (word ++ rest) =
      (Token.ofAtom (String.ofList (lower word)), before.count '\n') ::
        lined (before ++ word) rest := by
  rw [lined_token, Slice.token_of_isWord h]
  rw [Scanner.ahead_word h, Scanner.ahead_of_parted (by simp) hrest]
  simp

end Lines

/-- A text and its lower case form have the same tokens on the same lines. -/
theorem lined_lower (text : List Char) :
    ∀ {before other : List Char}, before.count '\n' = other.count '\n' →
      lined before (lower text) = lined other text := by
  -- What stands before may differ in its bytes, but not in its line breaks: no piece changes those.
  induction text using Scanner.pieces_induction with
  | nil =>
      intro before other _
      rfl
  | blank c rest hkind ih =>
      intro before other hcount
      rw [lower_cons (by simp [hkind]), lined_blank hkind, lined_blank hkind]
      apply ih
      simp [hcount]
  | paren c rest hkind ih =>
      intro before other hcount
      rw [lower_cons (by simp [hkind]), lined_paren hkind, lined_paren hkind, hcount]
      congr 1
      apply ih
      simp [hcount]
  | comment comment rest hcomment hrest ih =>
      intro before other hcount
      have hnone := newline_not_mem_lower hcomment
      rw [lower_cons (by decide), lower_append hrest.parted, lined_comment hnone hrest.lower,
        lined_comment hcomment hrest]
      apply ih
      simp [hcount, List.count_eq_zero_of_not_mem hnone, List.count_eq_zero_of_not_mem hcomment]
  | word word rest hword hrest ih =>
      intro before other hcount
      have hnone := newline_not_mem_of_isWord hword
      rw [lower_append hrest, lined_word (isWord_lower hword) (parted_lower hrest),
        lined_word hword hrest, lower_lower, hcount]
      congr 1
      apply ih
      simp [hcount, List.count_eq_zero_of_not_mem hnone,
        List.count_eq_zero_of_not_mem (newline_not_mem_lower hnone)]

/-- The lower case form of a text, as a text. -/
def lowerText (source : String) : String := String.ofList (lower source.toList)

theorem placed_line (source : String) :
    placed (Position.line ∘ Position.ofOffset source.toList) (scan source) =
      lined [] source.toList := by
  simp [placed, scan, lined, Slice.lexeme, Slice.span, Scanner.slices_eq, utf8Length]

/-- The tokens of a text are those of its lower case form, on the same lines. -/
theorem placed_line_lowerText (source : String) :
    placed (Position.line ∘ Position.ofOffset (lowerText source).toList)
        (scan (lowerText source)) =
      placed (Position.line ∘ Position.ofOffset source.toList) (scan source) := by
  rw [placed_line, placed_line, lowerText, String.toList_ofList]
  exact lined_lower source.toList rfl

/-- Letter case is not seen. A text has the tokens of its lower case form, although a token is
put into lower case alone and the text as a whole. So two texts with one lower case form are
read as the same list, or with the same fault on the same line. -/
theorem readText_lowerText (limit : Option Nat) :
    (∀ source, tokens (lowerText source) = tokens source ∧
      tokenTexts (lowerText source) = tokenTexts source) ∧
      ∀ source other, lowerText source = lowerText other →
        (readText limit source).mapError (ReadError.map Position.line) =
          (readText limit other).mapError (ReadError.map Position.line) := by
  have htokens : ∀ source, tokens (lowerText source) = tokens source := by
    intro source
    rw [tokens, tokens, ← fst_placed, placed_line_lowerText, fst_placed]
  refine ⟨fun source => ⟨htokens source, ?_⟩, ?_⟩
  · rw [tokenTexts, tokenTexts, htokens]
  · intro source other hlower
    apply readText_view_congr
    rw [← placed_line_lowerText source, ← placed_line_lowerText other, hlower]

/-- Capitals with a longer form, and a sigma that is final up to the comment: the list stays
open on the second line, but not in the same column. -/
theorem readText_lowerText_final_sigma :
    lowerText "(AΣ;Σb\nİ (" = lowerText "(aς;σB\ni̇ (" ∧
      (readText none "(AΣ;Σb\nİ (").mapError (ReadError.map Position.line) =
        (readText none "(aς;σB\ni̇ (").mapError (ReadError.map Position.line) ∧
      readText none "(AΣ;Σb\nİ (" = .error (.unterminated ⟨1, 3⟩) ∧
      readText none "(aς;σB\ni̇ (" = .error (.unterminated ⟨1, 4⟩) := by
  have hlower : lowerText "(AΣ;Σb\nİ (" = lowerText "(aς;σB\ni̇ (" := by decide +kernel
  have hcolumns : readText none "(AΣ;Σb\nİ (" = .error (.unterminated ⟨1, 3⟩) ∧
      readText none "(aς;σB\ni̇ (" = .error (.unterminated ⟨1, 4⟩) := by decide +kernel
  exact ⟨hlower, (readText_lowerText none).2 _ _ hlower, hcolumns⟩

end PlanText
