import PlanText.Text.Position

/-!
The ways in which a text fails to be one balanced list. The place is where the token stands
that shows the fault, as a byte offset or as a position.
-/

namespace PlanText

open Text

inductive ReadError (Place : Type)
  /-- The first token is not an opening parenthesis. -/
  | missingOpen (found : String) (place : Place)
  /-- There is no token at all. -/
  | emptyInput
  /-- The text ends inside lists; the place is that of the innermost. -/
  | unterminated (place : Place)
  /-- A token follows the list. -/
  | unexpected (found : String) (place : Place)
  /-- A list opens deeper than the limit allows. -/
  | tooDeep (limit : Nat) (place : Place)
deriving DecidableEq, Repr

namespace ReadError

variable {Place Other : Type}

def map (f : Place → Other) : ReadError Place → ReadError Other
  | missingOpen found place => missingOpen found (f place)
  | emptyInput => emptyInput
  | unterminated place => unterminated (f place)
  | unexpected found place => unexpected found (f place)
  | tooDeep limit place => tooDeep limit (f place)

def place? : ReadError Place → Option Place
  | missingOpen _ place => some place
  | emptyInput => none
  | unterminated place => some place
  | unexpected _ place => some place
  | tooDeep _ place => some place

def message : ReadError Place → String
  | missingOpen found _ => "expected '(', got " ++ found
  | emptyInput => "expected '(', got end of input"
  | unterminated _ => "unterminated list: no matching ')' for '('"
  | unexpected found _ => "unexpected token: " ++ found
  | tooDeep limit _ => "nesting depth exceeds limit of " ++ toString limit

end ReadError

end PlanText
