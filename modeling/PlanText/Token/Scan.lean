import PlanText.Text.Ranges
import PlanText.Text.Lower
import PlanText.Text.Utf8
import PlanText.Token

/-!
Scanning a text into tokens. A parenthesis is a token of its own, a question mark starts a
token, and every other character that is neither blank nor part of a comment continues the
token before it or starts one. A comment runs from a semicolon up to the end of the line.
The text of a token is in lower case, found from the token's own characters alone.
-/

namespace PlanText

open Text

/-- A token as it stands in the source. -/
structure Slice where
  start : Nat
  chars : List Char
deriving DecidableEq, Repr

inductive CharKind
  | blank
  | semicolon
  | paren
  | question
  | plain
deriving DecidableEq, Repr

def CharKind.of (c : Char) : CharKind :=
  if isBlank c then .blank
  else if c = ';' then .semicolon
  else if c = '(' ∨ c = ')' then .paren
  else if c = '?' then .question
  else .plain

/-- What the next character would continue. The characters of an unfinished token are kept
last one first. -/
inductive Scanner.Mode
  | gap
  | comment
  | inside (start : Nat) (chars : List Char)
deriving DecidableEq, Repr

/-- The scan of the text up to `offset`; `done` holds the finished tokens, last one first. -/
structure Scanner where
  offset : Nat
  mode : Scanner.Mode
  done : List Slice
deriving DecidableEq, Repr

namespace Scanner

def init : Scanner := ⟨0, .gap, []⟩

/-- The finished tokens once the current one ends. -/
def flush (s : Scanner) : List Slice :=
  match s.mode with
  | .inside start chars => ⟨start, chars.reverse⟩ :: s.done
  | _ => s.done

def step (s : Scanner) (c : Char) : Scanner :=
  let next := s.offset + c.utf8Size
  match s.mode with
  | .comment => ⟨next, if c = '\n' then .gap else .comment, s.done⟩
  | mode =>
    match CharKind.of c with
    | .blank => ⟨next, .gap, s.flush⟩
    | .semicolon => ⟨next, .comment, s.flush⟩
    | .paren => ⟨next, .gap, ⟨s.offset, [c]⟩ :: s.flush⟩
    | .question => ⟨next, .inside s.offset [c], s.flush⟩
    | .plain =>
      match mode with
      | .inside start chars => ⟨next, .inside start (c :: chars), s.done⟩
      | _ => ⟨next, .inside s.offset [c], s.done⟩

end Scanner

def slices (text : List Char) : List Slice :=
  (text.foldl Scanner.step Scanner.init).flush.reverse

namespace Slice

def token (s : Slice) : Token :=
  match s.chars with
  | ['('] => .lparen
  | [')'] => .rparen
  | '?' :: _ => .var (String.ofList (lower s.chars))
  | _ => .sym (String.ofList (lower s.chars))

def span (s : Slice) : Span := ⟨s.start, s.start + utf8Length s.chars⟩

def lexeme (s : Slice) : Lexeme := ⟨s.token, s.span⟩

end Slice

/-- The tokens of a text with their places. -/
def scan (source : String) : List Lexeme := (slices source.toList).map Slice.lexeme

/-- The tokens of a text. -/
def tokens (source : String) : List Token := (scan source).map Lexeme.token

/-- The texts of the tokens of a text. -/
def tokenTexts (source : String) : List String := (tokens source).map Token.text

end PlanText
