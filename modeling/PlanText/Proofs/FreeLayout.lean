import Mathlib.Data.List.Chain
import PlanText.Proofs.Joining
import PlanText.Proofs.Layout
import PlanText.Proofs.ReadTree

/-!
Texts that put the same tokens down in different ways. Between tokens there may be any blanks and
comments, and nothing at all where two tokens stay apart by themselves: a parenthesis is a token of
its own and a question mark starts one. All such texts have the same tokens, so those of one tree
are read as that tree.
-/

namespace PlanText

open Text

/-- What may stand between tokens: blanks, and comments with the line break that ends them. -/
inductive IsSeparator : List Char → Prop
  | nil : IsSeparator []
  | blank {c : Char} {rest : List Char} (hblank : isBlank c = true) (hrest : IsSeparator rest) :
      IsSeparator (c :: rest)
  | comment {body rest : List Char} (hbody : '\n' ∉ body) (hrest : IsSeparator rest) :
      IsSeparator (';' :: (body ++ '\n' :: rest))

/-- What may stand after the last token: a separator, and a comment that ends with the text. -/
inductive IsEnding : List Char → Prop
  | separator {text : List Char} (h : IsSeparator text) : IsEnding text
  | comment {text body : List Char} (h : IsSeparator text) (hbody : '\n' ∉ body) :
      IsEnding (text ++ ';' :: body)

namespace Token

/-- A parenthesis, or the token that a readable atom is written as. -/
def IsLegible (t : Token) : Prop :=
  t = .lparen ∨ t = .rparen ∨ ∃ atom, t = ofAtom atom ∧ isReadableAtom atom.toList = true

/-- Two tokens that stay apart with nothing between them. -/
def MayTouch (t next : Token) : Prop :=
  (t = .lparen ∨ t = .rparen) ∨ (next = .lparen ∨ next = .rparen) ∨
    next.text.toList.head? = some '?'

end Token

/-- A token and the text that is put before it. -/
structure Piece where
  before : List Char
  token : Token
deriving DecidableEq, Repr

def laidOut (pieces : List Piece) (ending : List Char) : List Char :=
  pieces.flatMap (fun piece => piece.before ++ piece.token.text.toList) ++ ending

/-- Tokens with separators before, between and after them. -/
structure IsLayout (pieces : List Piece) (ending : List Char) : Prop where
  tokens : ∀ piece ∈ pieces, piece.token.IsLegible
  separators : ∀ piece ∈ pieces, IsSeparator piece.before
  apart : pieces.IsChain fun piece next => next.before = [] → piece.token.MayTouch next.token
  ending : IsEnding ending

/-! Separators hold no token, and they end the token before them. -/

theorem tokensOf_comment {body : List Char} (hbody : '\n' ∉ body) (rest : List Char) :
    tokensOf (';' :: (body ++ '\n' :: rest)) = tokensOf rest := by
  rw [tokensOf_eq, Scanner.ahead_semicolon (by simp) (by decide), Scanner.ahead_comment hbody,
    Scanner.ahead_newline]
  exact token_ahead _ rest

theorem tokensOf_separator {text : List Char} (h : IsSeparator text) (rest : List Char) :
    tokensOf (text ++ rest) = tokensOf rest := by
  induction h with
  | nil => rfl
  | blank hblank _ ih => rw [List.cons_append, tokensOf_blank hblank, ih]
  | comment hbody _ ih =>
      rw [List.cons_append, List.append_assoc, List.cons_append, tokensOf_comment hbody, ih]

theorem tokensOf_separator_nil {text : List Char} (h : IsSeparator text) : tokensOf text = [] := by
  have htext := tokensOf_separator h []
  rwa [List.append_nil] at htext

theorem tokensOf_ending {text : List Char} (h : IsEnding text) : tokensOf text = [] := by
  cases h with
  | separator h => exact tokensOf_separator_nil h
  | comment h hbody =>
      rw [tokensOf, Scanner.slices_comment hbody]
      exact tokensOf_separator_nil h

theorem IsSeparator.parted {text : List Char} (h : IsSeparator text) (hne : text ≠ [])
    (rest : List Char) : Scanner.Parted (text ++ rest) := by
  cases h with
  | nil => exact absurd rfl hne
  | blank hblank _ =>
      apply Scanner.parted_cons
      simp [CharKind.of_eq_blank.mpr hblank]
  | comment _ _ => exact Scanner.parted_cons (by decide)

theorem IsEnding.parted {text : List Char} (h : IsEnding text) : Scanner.Parted text := by
  cases h with
  | @separator text h =>
      cases text with
      | nil => simp [Scanner.Parted]
      | cons c rest =>
          have hparted := h.parted (List.cons_ne_nil c rest) []
          rwa [List.append_nil] at hparted
  | @comment text body h _ =>
      cases text with
      | nil => exact Scanner.parted_cons (by decide)
      | cons c rest => exact h.parted (List.cons_ne_nil c rest) (';' :: body)

/-! Tokens that may touch. -/

theorem Token.MayTouch.parted {t next : Token} (h : t.MayTouch next)
    (hopen : t ≠ .lparen) (hclose : t ≠ .rparen) (rest : List Char) :
    Scanner.Parted (next.text.toList ++ rest) := by
  rcases h with (h | h) | (h | h) | hquestion
  · exact absurd h hopen
  · exact absurd h hclose
  · exact h ▸ Scanner.parted_cons (by decide)
  · exact h ▸ Scanner.parted_cons (by decide)
  · obtain ⟨others, hothers⟩ := List.head?_eq_some_iff.mp hquestion
    rw [hothers]
    exact Scanner.parted_cons (by decide)

/-- A token is found again in front of what does not continue it. -/
theorem Token.IsLegible.tokensOf_append {t : Token} (h : t.IsLegible) {rest : List Char}
    (hrest : t ≠ .lparen → t ≠ .rparen → Scanner.Parted rest) :
    tokensOf (t.text.toList ++ rest) = t :: tokensOf rest := by
  rcases h with rfl | rfl | ⟨atom, rfl, hatom⟩
  · exact tokensOf_lparen
  · exact tokensOf_rparen
  · rw [text_ofAtom]
    exact tokensOf_atom hatom (hrest (ofAtom_ne_lparen atom) (ofAtom_ne_rparen atom))

theorem laidOut_cons (piece : Piece) (rest : List Piece) (ending : List Char) :
    laidOut (piece :: rest) ending =
      piece.before ++ (piece.token.text.toList ++ laidOut rest ending) := by
  simp [laidOut]

namespace IsLayout

variable {piece : Piece} {pieces rest : List Piece} {ending : List Char}

theorem tail (h : IsLayout (piece :: rest) ending) : IsLayout rest ending where
  tokens := fun other hother => h.tokens other (List.mem_cons_of_mem _ hother)
  separators := fun other hother => h.separators other (List.mem_cons_of_mem _ hother)
  apart := (List.isChain_cons.mp h.apart).2
  ending := h.ending

/-- What is laid out after a word does not continue it. -/
theorem parted (h : IsLayout (piece :: rest) ending) (hopen : piece.token ≠ .lparen)
    (hclose : piece.token ≠ .rparen) : Scanner.Parted (laidOut rest ending) := by
  cases rest with
  | nil => exact h.ending.parted
  | cons next others =>
      rw [laidOut_cons]
      by_cases hempty : next.before = []
      · have htouch := (List.isChain_cons.mp h.apart).1 next rfl hempty
        rw [hempty, List.nil_append]
        exact htouch.parted hopen hclose _
      · exact (h.separators next (by simp)).parted hempty _

theorem tokensOf_laidOut_cons (h : IsLayout (piece :: rest) ending) :
    tokensOf (laidOut (piece :: rest) ending) =
      piece.token :: tokensOf (laidOut rest ending) := by
  rw [laidOut_cons, tokensOf_separator (h.separators piece (by simp)),
    (h.tokens piece (by simp)).tokensOf_append h.parted]

theorem tokensOf_laidOut (h : IsLayout pieces ending) :
    tokensOf (laidOut pieces ending) = pieces.map Piece.token := by
  induction pieces with
  | nil => exact tokensOf_ending h.ending
  | cons piece rest ih => rw [h.tokensOf_laidOut_cons, ih h.tail, List.map_cons]

end IsLayout

/-- Layout does not matter: a text that puts tokens down in any layout has exactly these tokens,
and it is read as the list that they are the tokens of. -/
theorem tokens_laidOut {pieces : List Piece} {ending : List Char} (h : IsLayout pieces ending) :
    let text := String.ofList (laidOut pieces ending)
    tokens text = pieces.map Piece.token ∧
      tokenTexts text = pieces.map (fun piece => piece.token.text) ∧
        ∀ items, pieces.map Piece.token = (Node.list items).tokens →
          readText none text = .ok items := by
  intro text
  have htokens : tokens text = pieces.map Piece.token := by
    rw [tokens_eq, String.toList_ofList, h.tokensOf_laidOut]
  refine ⟨htokens, ?_, ?_⟩
  · rw [tokenTexts, htokens, List.map_map]
    rfl
  · intro items hitems
    rw [readText_ok_iff, htokens]
    exact ⟨hitems, rfl⟩

/-- A word before a comment, a variable that touches the next one, a wide blank, and a comment that
the text ends in; both comments hold a parenthesis. -/
theorem tokens_laidOut_touching :
    let pieces : List Piece := [⟨[], .lparen⟩, ⟨[], .sym "a"⟩, ⟨[';', ')', '\n'], .var "?b"⟩,
      ⟨[], .var "?c"⟩, ⟨['\u3000'], .rparen⟩]
    let text := String.ofList (laidOut pieces ['\t', ';', '('])
    IsLayout pieces ['\t', ';', '('] ∧ text = "(a;)\n?b?c\u3000)\t;(" ∧
      tokens text = pieces.map Piece.token ∧
        tokenTexts text = pieces.map (fun piece => piece.token.text) ∧
          readText none text = .ok [.atom "a", .atom "?b", .atom "?c"] := by
  intro pieces text
  have hcomment : IsSeparator [';', ')', '\n'] := @IsSeparator.comment [')'] [] (by decide) .nil
  have hwide : IsSeparator ['\u3000'] := .blank (by decide) .nil
  have hlayout : IsLayout pieces ['\t', ';', '('] := by
    constructor
    · simp only [pieces, List.forall_mem_cons]
      exact ⟨Or.inl rfl, Or.inr (Or.inr ⟨"a", by decide, by decide⟩),
        Or.inr (Or.inr ⟨"?b", by decide, by decide⟩), Or.inr (Or.inr ⟨"?c", by decide, by decide⟩),
        Or.inr (Or.inl rfl), by simp⟩
    · simp only [pieces, List.forall_mem_cons]
      exact ⟨.nil, .nil, hcomment, .nil, hwide, by simp⟩
    · simp [pieces, Token.MayTouch, Token.text]
    · exact @IsEnding.comment ['\t'] ['('] (.blank (by decide) .nil) (by decide)
  obtain ⟨htokens, htexts, hread⟩ := tokens_laidOut hlayout
  exact ⟨hlayout, by decide, htokens, htexts, hread _ (by decide)⟩

end PlanText
