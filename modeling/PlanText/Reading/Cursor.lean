import PlanText.Text.LineTable
import PlanText.Token.Scan

/-!
A cursor over the tokens of one text. It only moves forward: what one reader takes is gone
for the next.
-/

namespace PlanText

open Text

/-- The tokens taken so far, last one first, and the tokens that are left. -/
structure Cursor where
  source : String
  taken : List Lexeme
  rest : List Lexeme
deriving Repr

namespace Cursor

def start (source : String) : Cursor := ⟨source, [], scan source⟩

def next? (c : Cursor) : Option Lexeme × Cursor :=
  match c.rest with
  | [] => (none, c)
  | lexeme :: rest => (some lexeme, { c with taken := lexeme :: c.taken, rest := rest })

/-- The span of the token that was taken last, empty before the first. -/
def lastSpan (c : Cursor) : Span :=
  match c.taken with
  | [] => ⟨0, 0⟩
  | lexeme :: _ => lexeme.span

def positionOf (c : Cursor) (offset : Nat) : Position :=
  Position.ofOffset c.source.toList offset

end Cursor

end PlanText
