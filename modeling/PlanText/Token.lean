/-!
Tokens of planning text: the two parentheses, variables, which start with a question mark,
and symbols, which hold none.
-/

namespace PlanText

inductive Token
  | lparen
  | rparen
  | var (text : String)
  | sym (text : String)
deriving DecidableEq, Repr, Inhabited

namespace Token

def text : Token → String
  | lparen => "("
  | rparen => ")"
  | var text => text
  | sym text => text

/-- The token that an atom is written as. -/
def ofAtom (text : String) : Token :=
  match text.toList with
  | '?' :: _ => var text
  | _ => sym text

@[simp] theorem text_ofAtom (atom : String) : (ofAtom atom).text = atom := by
  unfold ofAtom
  split <;> rfl

end Token

/-- The bytes of a source text from `start` up to and without `stop`. -/
structure Span where
  start : Nat
  stop : Nat
deriving DecidableEq, Repr, Inhabited

structure Lexeme where
  token : Token
  span : Span
deriving DecidableEq, Repr, Inhabited

end PlanText
