import PlanText.Reading.List

/-!
The outcome of reading by counting parentheses. The count after so many tokens is the number
of opening parentheses among them less the number of closing ones. A list ends where the
count first comes back to zero, and a list is too deep where the count first passes the
limit before that.
-/

namespace PlanText.Balance

def weight : Token → Int
  | .lparen => 1
  | .rparen => -1
  | _ => 0

/-- The count after all tokens of a list. -/
def count : List Lexeme → Int
  | [] => 0
  | l :: rest => weight l.token + count rest

/-- The least number of tokens, but not none, after which the count is zero. -/
def listEnd? (tokens : List Lexeme) : Option Nat :=
  (List.range tokens.length).findSome? fun k =>
    if count (tokens.take (k + 1)) = 0 then some (k + 1) else none

/-- The first parenthesis that takes the count over a limit. -/
def passing? (limit : Nat) (tokens : List Lexeme) : Option Lexeme :=
  (List.range tokens.length).findSome? fun k =>
    match tokens[k]? with
    | some l =>
      if l.token = .lparen ∧ (limit : Int) < count (tokens.take (k + 1)) then some l else none
    | none => none

/-- Whether the count stays above what it was before the first token. -/
def neverMatched (tokens : List Lexeme) : Bool :=
  (List.range tokens.length).all fun k => 0 < count (tokens.take (k + 1))

/-- The last opening parenthesis that is never matched. -/
def lastOpen? (tokens : List Lexeme) : Option Lexeme :=
  (List.range tokens.length).reverse.findSome? fun k =>
    match tokens.drop k with
    | l :: rest => if l.token = .lparen ∧ neverMatched (l :: rest) then some l else none
    | [] => none

/-- The fault that reading the tokens of a text meets, if it meets one. -/
def fault? (limit : Option Nat) (tokens : List Lexeme) : Option (ReadError Nat) :=
  match tokens with
  | [] => some .emptyInput
  | first :: _ =>
    if first.token ≠ .lparen then some (.missingOpen first.token.text first.span.start)
    else
      let list := tokens.take ((listEnd? tokens).getD tokens.length)
      match limit.bind fun n => (passing? n list).map fun l => (n, l) with
      | some (n, l) => some (.tooDeep n l.span.start)
      | none =>
        match listEnd? tokens with
        | none => (lastOpen? tokens).map fun l => .unterminated l.span.start
        | some k =>
          match tokens[k]? with
          | some l => some (.unexpected l.token.text l.span.start)
          | none => none

end PlanText.Balance
