import Mathlib.Data.List.Chain
import PlanText.Proofs.LetterCase

/-!
The spans of the tokens against the source. They part it: a span holds the characters of its
token, what lies between two spans is skipped, and two tokens touch only where the second would
not continue the first. A source is parted so by one list of tokens alone, and scanning finds it.
-/

namespace PlanText

open Text

/-- What is skipped of a source, with what comes after it: blanks, and comments. A comment goes
on to the next line break of the source, or to its end if there is none. -/
inductive IsSkipped : List Char → List Char → Prop
  | nil {after : List Char} : IsSkipped [] after
  | blank {c : Char} {rest after : List Char} (hblank : isBlank c = true)
      (hrest : IsSkipped rest after) : IsSkipped (c :: rest) after
  | comment {body rest after : List Char} (hbody : '\n' ∉ body)
      (hbreak : Scanner.AtBreak (rest ++ after)) (hrest : IsSkipped rest after) :
      IsSkipped (';' :: (body ++ rest)) after

/-- A character that neither parts tokens nor starts one. -/
def IsOrdinary (c : Char) : Prop := isDelimiter c = false ∧ c ≠ '?'

/-- The characters that a token is written with in a source. -/
inductive Spells : List Char → Token → Prop
  | lparen : Spells ['('] .lparen
  | rparen : Spells [')'] .rparen
  | var {name : List Char} (h : ∀ c ∈ name, IsOrdinary c) :
      Spells ('?' :: name) (.var (String.ofList (lower ('?' :: name))))
  | sym {name : List Char} (hne : name ≠ []) (h : ∀ c ∈ name, IsOrdinary c) :
      Spells name (.sym (String.ofList (lower name)))

namespace Token

def IsParen (t : Token) : Prop := t = .lparen ∨ t = .rparen

def IsVariable (t : Token) : Prop := ∃ text, t = .var text

end Token

/-- The span of bytes that some characters of a source take up between the others. -/
structure Span.Covers (span : Span) (source : String) (before chars after : List Char) :
    Prop where
  source_eq : source.toList = before ++ (chars ++ after)
  span_eq : span = ⟨utf8Length before, utf8Length (before ++ chars)⟩

/-- The spans that tokens leave between an offset and the end of the source. -/
def gapsFrom (offset stop : Nat) : List Lexeme → List Span
  | [] => [⟨offset, stop⟩]
  | l :: rest => ⟨offset, l.span.start⟩ :: gapsFrom l.span.stop stop rest

/-- Tokens that part a source from an offset on. The ends of their spans lie within the source
and between two characters of it. Only neighbours can touch, since no span is empty. -/
structure IsPartition (source : String) (offset : Nat) (ls : List Lexeme) : Prop where
  nonempty : ∀ l ∈ ls, l.span.start < l.span.stop
  ordered : ls.Pairwise fun l m => l.span.stop ≤ m.span.start
  bounded : ∀ l ∈ ls, (String.Pos.Raw.mk l.span.start).IsValid source ∧
    (String.Pos.Raw.mk l.span.stop).IsValid source
  spelled : ∀ l ∈ ls, ∃ before chars after, l.span.Covers source before chars after ∧
    Spells chars l.token
  skipped : ∀ gap ∈ gapsFrom offset source.utf8ByteSize ls, ∃ before chars after,
    gap.Covers source before chars after ∧ IsSkipped chars after
  apart : ls.IsChain fun l m => l.span.stop = m.span.start →
    l.token.IsParen ∨ m.token.IsParen ∨ m.token.IsVariable

/-! What is skipped, and what a token is written with, as the scanner meets them. -/

theorem IsSkipped.ahead {gap after : List Char} (h : IsSkipped gap after) (offset : Nat) :
    Scanner.ahead .gap offset (gap ++ after) =
      Scanner.ahead .gap (offset + utf8Length gap) after := by
  induction h generalizing offset with
  | nil => rfl
  | @blank c rest after hblank _ ih =>
      rw [List.cons_append, Scanner.ahead_blank (by simp) (CharKind.of_eq_blank.mpr hblank), ih,
        Scanner.pending_gap, List.nil_append, utf8Length, Nat.add_assoc]
  | @comment body rest after hbody hbreak _ ih =>
      rw [List.cons_append, List.append_assoc, Scanner.ahead_semicolon (by simp) (by decide),
        Scanner.ahead_comment hbody, hbreak.ahead_comment, ih, Scanner.pending_gap,
        List.nil_append, utf8Length, utf8Length_append]
      simp only [Nat.add_assoc]

/-- What is skipped does not continue a token. -/
theorem IsSkipped.parted {gap after : List Char} (h : IsSkipped gap after) (hne : gap ≠ []) :
    Scanner.Parted (gap ++ after) := by
  cases h with
  | nil => exact absurd rfl hne
  | blank hblank _ =>
      apply Scanner.parted_cons
      simp [CharKind.of_eq_blank.mpr hblank]
  | comment _ _ _ => exact Scanner.parted_cons (by decide)

theorem plain_of_isOrdinary {name : List Char} (h : ∀ c ∈ name, IsOrdinary c) :
    ∀ c ∈ name, CharKind.of c = .plain :=
  fun c hc => CharKind.of_eq_plain.mpr (h c hc)

namespace Spells

variable {chars after : List Char} {t : Token}

theorem isWord (h : Spells chars t) (hparen : ¬t.IsParen) : IsWord chars := by
  cases h with
  | lparen => exact absurd (Or.inl rfl) hparen
  | rparen => exact absurd (Or.inr rfl) hparen
  | var h => exact ⟨Or.inl (by decide), plain_of_isOrdinary h⟩
  | sym hne h =>
      have hplain := plain_of_isOrdinary h
      obtain ⟨c, rest, rfl⟩ := List.exists_cons_of_ne_nil hne
      exact ⟨Or.inr (hplain c (by simp)), fun d hd => hplain d (by simp [hd])⟩

theorem token_eq (h : Spells chars t) (start : Nat) : (Slice.mk start chars).token = t := by
  cases h with
  | lparen => rfl
  | rparen => rfl
  | var _ => rfl
  | sym _ h =>
      have hplain := plain_of_isOrdinary h
      simp only [Slice.token]
      split
      · exact absurd (hplain '(' (by simp)) (by decide)
      · exact absurd (hplain ')' (by simp)) (by decide)
      · exact absurd (hplain '?' (by simp)) (by decide)
      · rfl

theorem ne_nil (h : Spells chars t) : chars ≠ [] := by
  cases h with
  | lparen => simp
  | rparen => simp
  | var _ => simp
  | sym hne _ => exact hne

/-- A token starts where none is continued, unless it is a symbol. -/
theorem parted_iff (h : Spells chars t) :
    Scanner.Parted (chars ++ after) ↔ t.IsParen ∨ t.IsVariable := by
  cases h with
  | lparen => exact ⟨fun _ => Or.inl (Or.inl rfl), fun _ => Scanner.parted_cons (by decide)⟩
  | rparen => exact ⟨fun _ => Or.inl (Or.inr rfl), fun _ => Scanner.parted_cons (by decide)⟩
  | var _ => exact ⟨fun _ => Or.inr ⟨_, rfl⟩, fun _ => Scanner.parted_cons (by decide)⟩
  | sym hne h =>
      have hplain := plain_of_isOrdinary h
      obtain ⟨c, rest, rfl⟩ := List.exists_cons_of_ne_nil hne
      constructor
      · intro hparted
        exact absurd (hplain c (by simp)) (hparted c rfl)
      · rintro ((hopen | hclose) | ⟨text, hvar⟩)
        · cases hopen
        · cases hclose
        · cases hvar

/-- The scanner takes the characters of a token as one slice, if what comes after them does not
continue it. -/
theorem ahead (h : Spells chars t) (hafter : ¬t.IsParen → Scanner.Parted after) (offset : Nat) :
    Scanner.ahead .gap offset (chars ++ after) =
      ⟨offset, chars⟩ :: Scanner.ahead .gap (offset + utf8Length chars) after := by
  by_cases hparen : t.IsParen
  · obtain ⟨c, rfl, hkind⟩ : ∃ c, chars = [c] ∧ CharKind.of c = .paren := by
      cases h with
      | lparen => exact ⟨'(', rfl, by decide⟩
      | rparen => exact ⟨')', rfl, by decide⟩
      | var _ => simp [Token.IsParen] at hparen
      | sym _ _ => simp [Token.IsParen] at hparen
    exact Scanner.ahead_paren (by simp) hkind
  · rw [Scanner.ahead_word (h.isWord hparen), Scanner.ahead_of_parted (by simp) (hafter hparen)]
    simp

end Spells

theorem spells_of_paren {c : Char} (h : CharKind.of c = .paren) : ∃ t, Spells [c] t := by
  rcases CharKind.of_eq_paren.mp h with rfl | rfl
  · exact ⟨_, .lparen⟩
  · exact ⟨_, .rparen⟩

theorem spells_of_isWord {word : List Char} (h : IsWord word) : ∃ t, Spells word t := by
  cases word with
  | nil => exact h.elim
  | cons c rest =>
      obtain ⟨hfirst, hrest⟩ := h
      have hordinary : ∀ d ∈ rest, IsOrdinary d :=
        fun d hd => CharKind.of_eq_plain.mp (hrest d hd)
      rcases hfirst with hquestion | hplain
      · obtain rfl := CharKind.of_eq_question.mp hquestion
        exact ⟨_, .var hordinary⟩
      · have hall : ∀ d ∈ c :: rest, IsOrdinary d :=
          List.forall_mem_cons.mpr ⟨CharKind.of_eq_plain.mp hplain, hordinary⟩
        exact ⟨_, .sym (by simp) hall⟩

/-! Spans of a source that is cut somewhere. -/

section Cuts

variable {source : String} {span : Span} {before chars after other rest : List Char}

theorem utf8ByteSize_eq (source : String) : source.utf8ByteSize = utf8Length source.toList := by
  rw [← utf8ByteSize_ofList, String.ofList_toList]

theorem Span.Covers.cut (h : span.Covers source before chars after)
    (hsource : source.toList = other ++ rest) (hstart : span.start = utf8Length other) :
    before = other ∧ chars ++ after = rest := by
  apply append_inj_of_utf8Length (h.source_eq.symm.trans hsource)
  rw [← hstart, h.span_eq]

theorem isValid_utf8Length (hsource : source.toList = before ++ after) :
    (String.Pos.Raw.mk (utf8Length before)).IsValid source := by
  apply String.Pos.Raw.isValid_iff_exists_append.mpr
  refine ⟨String.ofList before, String.ofList after, ?_, ?_⟩
  · rw [← String.ofList_append, ← hsource, String.ofList_toList]
  · rw [String.rawEndPos, utf8ByteSize_ofList]

theorem gapsFrom_eq (stop : Nat) (ls : List Lexeme) :
    ∃ first others, ∀ offset, gapsFrom offset stop ls = ⟨offset, first⟩ :: others := by
  cases ls with
  | nil => exact ⟨stop, [], fun _ => rfl⟩
  | cons l rest => exact ⟨l.span.start, _, fun _ => rfl⟩

end Cuts

namespace IsPartition

variable {source : String} {before rest : List Char} {offset : Nat} {l : Lexeme}
  {ls : List Lexeme} {t : Token}

theorem tail (h : IsPartition source offset (l :: ls)) : IsPartition source l.span.stop ls where
  nonempty := fun m hm => h.nonempty m (List.mem_cons_of_mem _ hm)
  ordered := (List.pairwise_cons.mp h.ordered).2
  bounded := fun m hm => h.bounded m (List.mem_cons_of_mem _ hm)
  spelled := fun m hm => h.spelled m (List.mem_cons_of_mem _ hm)
  skipped := fun gap hgap => h.skipped gap (List.mem_cons_of_mem _ hgap)
  apart := (List.isChain_cons.mp h.apart).2

/-- Where the source goes on, a gap comes first, and then the first token. -/
theorem first (h : IsPartition source (utf8Length before) (l :: ls))
    (hsource : source.toList = before ++ rest) :
    ∃ gap chars after, rest = gap ++ (chars ++ after) ∧ IsSkipped gap (chars ++ after) ∧
      Spells chars l.token ∧
        l.span = ⟨utf8Length (before ++ gap), utf8Length (before ++ gap ++ chars)⟩ := by
  obtain ⟨upto, gap, more, hgap, hskipped⟩ := h.skipped _ List.mem_cons_self
  obtain ⟨start, chars, after, htoken, hspells⟩ := h.spelled l List.mem_cons_self
  obtain ⟨rfl, rfl⟩ := hgap.cut hsource rfl
  have hstart : l.span.start = utf8Length (upto ++ gap) := congrArg Span.stop hgap.span_eq
  rw [← List.append_assoc] at hsource
  obtain ⟨rfl, rfl⟩ := htoken.cut hsource hstart
  exact ⟨gap, chars, after, rfl, hskipped, hspells, htoken.span_eq⟩

/-- Where no token is left, the rest of the source is skipped. -/
theorem last (h : IsPartition source (utf8Length before) [])
    (hsource : source.toList = before ++ rest) : IsSkipped rest [] := by
  obtain ⟨upto, gap, after, hgap, hskipped⟩ := h.skipped _ List.mem_cons_self
  have hstop : source.utf8ByteSize = utf8Length (upto ++ gap) := congrArg Span.stop hgap.span_eq
  rw [utf8ByteSize_eq, hgap.source_eq, ← List.append_assoc, utf8Length_append] at hstop
  obtain rfl : after = [] := eq_nil_of_utf8Length (Nat.left_eq_add.mp hstop.symm)
  obtain ⟨rfl, rfl⟩ := hgap.cut hsource rfl
  rwa [List.append_nil]

theorem le_start (h : IsPartition source offset ls) : ∀ m ∈ ls, offset ≤ m.span.start := by
  cases ls with
  | nil => simp
  | cons l rest =>
      obtain ⟨upto, gap, after, hgap, _⟩ := h.skipped _ List.mem_cons_self
      have hspan := hgap.span_eq
      simp only [Span.mk.injEq, utf8Length_append] at hspan
      have hfirst : offset ≤ l.span.start := by omega
      have hnonempty := h.nonempty l List.mem_cons_self
      intro m hm
      rcases List.mem_cons.mp hm with rfl | hm
      · exact hfirst
      · have hordered := (List.pairwise_cons.mp h.ordered).1 m hm
        omega

/-! What stands after a token and touches it. -/

theorem parted (h : IsPartition source (utf8Length before) ls)
    (hsource : source.toList = before ++ rest)
    (htouch : ∀ l ∈ ls.head?, utf8Length before = l.span.start →
      l.token.IsParen ∨ l.token.IsVariable) : Scanner.Parted rest := by
  cases ls with
  | nil =>
      have hskipped := h.last hsource
      cases rest with
      | nil => simp [Scanner.Parted]
      | cons c more =>
          have hparted := hskipped.parted (List.cons_ne_nil c more)
          rwa [List.append_nil] at hparted
  | cons l others =>
      obtain ⟨gap, chars, after, rfl, hskipped, hspells, hspan⟩ := h.first hsource
      cases gap with
      | nil =>
          apply hspells.parted_iff.mpr
          apply htouch l rfl
          rw [hspan, List.append_nil]
      | cons c more => exact hskipped.parted (List.cons_ne_nil c more)

theorem apart_of_parted (h : IsPartition source (utf8Length before) ls)
    (hsource : source.toList = before ++ rest) (hrest : Scanner.Parted rest) :
    ∀ l ∈ ls.head?, utf8Length before = l.span.start → l.token.IsParen ∨ l.token.IsVariable := by
  intro l hl htouch
  obtain ⟨others, rfl⟩ := List.head?_eq_some_iff.mp hl
  obtain ⟨gap, chars, after, rfl, _, hspells, hspan⟩ := h.first hsource
  obtain rfl : gap = [] := by
    apply eq_nil_of_utf8Length
    rw [hspan, utf8Length_append] at htouch
    exact Nat.left_eq_add.mp htouch
  exact hspells.parted_iff.mp hrest

/-- Tokens that part the rest of a source are those that the scanner finds there. -/
theorem eq_ahead (h : IsPartition source (utf8Length before) ls)
    (hsource : source.toList = before ++ rest) :
    ls = (Scanner.ahead .gap (utf8Length before) rest).map Slice.lexeme := by
  induction ls generalizing before rest with
  | nil =>
      have hskipped := (h.last hsource).ahead (utf8Length before)
      rw [List.append_nil] at hskipped
      rw [hskipped]
      rfl
  | cons l others ih =>
      obtain ⟨gap, chars, after, rfl, hskipped, hspells, hspan⟩ := h.first hsource
      have htail := h.tail
      have hafter : source.toList = before ++ gap ++ chars ++ after := by simp [hsource]
      rw [hspan] at htail
      have hparted : ¬l.token.IsParen → Scanner.Parted after := by
        intro hparen
        apply htail.parted hafter
        intro m hm htouch
        have happart := (List.isChain_cons.mp h.apart).1 m hm
        rw [hspan] at happart
        exact (happart htouch).resolve_left hparen
      have hlexeme : (Slice.mk (utf8Length (before ++ gap)) chars).lexeme = l := by
        rw [Slice.lexeme, hspells.token_eq, Slice.span, ← utf8Length_append, ← hspan]
      rw [hskipped.ahead, ← utf8Length_append, hspells.ahead hparted, ← utf8Length_append,
        List.map_cons, hlexeme, ← ih htail hafter]

/-! Putting a partition together, from the end of the source. -/

theorem nil (source : String) : IsPartition source (utf8Length source.toList) [] where
  nonempty := by simp
  ordered := .nil
  bounded := by simp
  spelled := by simp
  skipped := by
    intro gap hgap
    refine ⟨source.toList, [], [], ?_, .nil⟩
    rw [gapsFrom, List.mem_singleton, utf8ByteSize_eq] at hgap
    exact ⟨by simp, by simp [hgap]⟩
  apart := .nil

/-- A piece of the source that is skipped whatever is skipped after it. -/
theorem skip {piece : List Char} (h : IsPartition source (utf8Length (before ++ piece)) ls)
    (hsource : source.toList = before ++ (piece ++ rest))
    (hpiece : ∀ {gap after}, rest = gap ++ after → IsSkipped gap after →
      IsSkipped (piece ++ gap) after) : IsPartition source (utf8Length before) ls where
  nonempty := h.nonempty
  ordered := h.ordered
  bounded := h.bounded
  spelled := h.spelled
  skipped := by
    obtain ⟨stop, others, hgaps⟩ := gapsFrom_eq source.utf8ByteSize ls
    have hskipped := h.skipped
    rw [hgaps, List.forall_mem_cons] at hskipped ⊢
    obtain ⟨⟨upto, gap, after, hgap, hrest⟩, hothers⟩ := hskipped
    obtain ⟨rfl, hafter⟩ := hgap.cut ((List.append_assoc ..).trans hsource.symm).symm rfl
    have hstop : stop = utf8Length (before ++ piece ++ gap) := congrArg Span.stop hgap.span_eq
    refine ⟨⟨before, piece ++ gap, after, ⟨?_, ?_⟩, hpiece hafter.symm hrest⟩, hothers⟩
    · rw [hsource, ← hafter, List.append_assoc]
    · rw [hstop, List.append_assoc]
  apart := h.apart

/-- A token that stands right at the start, where what touches it does not continue it. -/
theorem cons {chars after : List Char} (h : IsPartition source (utf8Length (before ++ chars)) ls)
    (hsource : source.toList = before ++ (chars ++ after)) (hspells : Spells chars t)
    (hafter : ¬t.IsParen → Scanner.Parted after) :
    IsPartition source (utf8Length before)
      (⟨t, ⟨utf8Length before, utf8Length (before ++ chars)⟩⟩ :: ls) where
  nonempty := by
    refine List.forall_mem_cons.mpr ⟨?_, h.nonempty⟩
    have hpositive : utf8Length chars ≠ 0 := by
      intro hzero
      exact hspells.ne_nil (eq_nil_of_utf8Length hzero)
    simp only [utf8Length_append]
    omega
  ordered := List.pairwise_cons.mpr ⟨h.le_start, h.ordered⟩
  bounded := by
    refine List.forall_mem_cons.mpr ⟨⟨isValid_utf8Length hsource, ?_⟩, h.bounded⟩
    rw [← List.append_assoc] at hsource
    exact isValid_utf8Length hsource
  spelled := List.forall_mem_cons.mpr ⟨⟨before, chars, after, ⟨hsource, rfl⟩, hspells⟩, h.spelled⟩
  skipped := by
    have hfirst : Span.Covers ⟨utf8Length before, utf8Length before⟩ source before []
        (chars ++ after) := ⟨hsource, by rw [List.append_nil]⟩
    exact List.forall_mem_cons.mpr ⟨⟨before, [], chars ++ after, hfirst, .nil⟩, h.skipped⟩
  apart := by
    refine List.isChain_cons.mpr ⟨?_, h.apart⟩
    intro m hm htouch
    rw [← List.append_assoc] at hsource
    by_cases hparen : t.IsParen
    · exact Or.inl hparen
    · exact Or.inr (h.apart_of_parted hsource (hafter hparen) m hm htouch)

/-! The same for what the scanner finds. -/

theorem skip_ahead {piece : List Char}
    (h : IsPartition source (utf8Length (before ++ piece))
      ((Scanner.ahead .gap (utf8Length (before ++ piece)) rest).map Slice.lexeme))
    (hsource : source.toList = before ++ (piece ++ rest))
    (hpiece : ∀ {gap after}, rest = gap ++ after → IsSkipped gap after →
      IsSkipped (piece ++ gap) after) :
    IsPartition source (utf8Length before)
      ((Scanner.ahead .gap (utf8Length before) (piece ++ rest)).map Slice.lexeme) := by
  have hskipped := hpiece (List.nil_append rest).symm .nil
  rw [List.append_nil] at hskipped
  rw [hskipped.ahead, ← utf8Length_append]
  exact h.skip hsource hpiece

theorem cons_ahead {chars : List Char}
    (h : IsPartition source (utf8Length (before ++ chars))
      ((Scanner.ahead .gap (utf8Length (before ++ chars)) rest).map Slice.lexeme))
    (hsource : source.toList = before ++ (chars ++ rest)) (hspells : Spells chars t)
    (hrest : ¬t.IsParen → Scanner.Parted rest) :
    IsPartition source (utf8Length before)
      ((Scanner.ahead .gap (utf8Length before) (chars ++ rest)).map Slice.lexeme) := by
  rw [hspells.ahead hrest, ← utf8Length_append, List.map_cons, Slice.lexeme, hspells.token_eq,
    Slice.span, ← utf8Length_append]
  exact h.cons hsource hspells hrest

end IsPartition

/-- What the scanner finds in the rest of a source parts it. -/
theorem isPartition_ahead {source : String} (rest : List Char) :
    ∀ {before : List Char}, source.toList = before ++ rest →
      IsPartition source (utf8Length before)
        ((Scanner.ahead .gap (utf8Length before) rest).map Slice.lexeme) := by
  -- The pieces are taken off in front, so the part of the source before them grows.
  induction rest using Scanner.pieces_induction with
  | nil =>
      intro before hsource
      rw [List.append_nil] at hsource
      rw [← hsource]
      exact .nil source
  | blank c rest hkind ih =>
      intro before hsource
      have hrest := @ih (before ++ [c]) (by simp [hsource])
      apply hrest.skip_ahead hsource
      intro gap after _ hgap
      exact .blank (CharKind.of_eq_blank.mp hkind) hgap
  | paren c rest hkind ih =>
      intro before hsource
      have hrest := @ih (before ++ [c]) (by simp [hsource])
      obtain ⟨t, hspells⟩ := spells_of_paren hkind
      apply hrest.cons_ahead hsource hspells
      intro hparen
      have hfirst := (hspells.isWord hparen).1
      simp [hkind] at hfirst
  | comment comment rest hcomment hbreak ih =>
      intro before hsource
      have hrest := @ih (before ++ ';' :: comment) (by simp [hsource])
      apply hrest.skip_ahead hsource
      intro gap after hcut hgap
      exact .comment hcomment (hcut ▸ hbreak) hgap
  | word word rest hword hparted ih =>
      intro before hsource
      have hrest := @ih (before ++ word) (by simp [hsource])
      obtain ⟨t, hspells⟩ := spells_of_isWord hword
      exact hrest.cons_ahead hsource hspells fun _ => hparted

/-- The tokens of a source part it, and no other list of tokens with spans does. -/
theorem isPartition_iff_scan (source : String) (ls : List Lexeme) :
    IsPartition source 0 ls ↔ ls = scan source := by
  have hsource : source.toList = [] ++ source.toList := rfl
  rw [scan, Scanner.slices_eq]
  constructor
  · intro h
    exact h.eq_ahead hsource
  · rintro rfl
    exact isPartition_ahead source.toList hsource

end PlanText
