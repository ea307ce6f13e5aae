import PlanText.Node
import PlanText.Reading.Cursor
import PlanText.Reading.Error

/-!
Reading lists. The reader keeps a frame for each list that is open, the innermost one apart,
and takes one token at a time, so that the number of frames is always the number of
unmatched parentheses. It stops right after the parenthesis that closes the outermost list,
or at the token that shows a fault.
-/

namespace PlanText

/-- A list that is open: where its parenthesis stands, how deep it lies, and the items so far,
last one first. -/
structure Frame where
  opening : Nat
  depth : Nat
  items : List Node
deriving Repr

namespace Frame

def push (f : Frame) (node : Node) : Frame := { f with items := node :: f.items }

def node (f : Frame) : Node := .list f.items.reverse

end Frame

/-- Whether a list of some depth is too deep. Without a limit none is. -/
def exceeds (limit : Option Nat) (depth : Nat) : Option Nat :=
  limit.filter (· < depth)

/-- What reading gives, and the tokens as it leaves them: taken, last one first, and left. -/
structure Outcome where
  result : Except (ReadError Nat) (List Node)
  taken : List Lexeme
  rest : List Lexeme

/-- Reads on inside the list of a frame, with the lists around it, up to the end of the
outermost one. -/
def collect (limit : Option Nat) (outer : List Frame) (inner : Frame) (taken : List Lexeme) :
    List Lexeme → Outcome
  | [] => ⟨.error (.unterminated inner.opening), taken, []⟩
  | lexeme :: rest =>
    let taken := lexeme :: taken
    match lexeme.token with
    | .lparen =>
      match exceeds limit (inner.depth + 1) with
      | some limit => ⟨.error (.tooDeep limit lexeme.span.start), taken, rest⟩
      | none =>
        collect limit (inner :: outer) ⟨lexeme.span.start, inner.depth + 1, []⟩ taken rest
    | .rparen =>
      match outer with
      | [] => ⟨.ok inner.items.reverse, taken, rest⟩
      | parent :: outer => collect limit outer (parent.push inner.node) taken rest
    | token => collect limit outer (inner.push (.atom token.text)) taken rest

/-- Reads the items of a list whose parenthesis stands at an offset and is already taken. -/
def readItems (limit : Option Nat) (opening : Nat) (taken rest : List Lexeme) : Outcome :=
  match exceeds limit 1 with
  | some limit => ⟨.error (.tooDeep limit opening), taken, rest⟩
  | none => collect limit [] ⟨opening, 1, []⟩ taken rest

/-- Reads one list and takes a token that follows it as a fault. -/
def readWhole (limit : Option Nat) (taken : List Lexeme) : List Lexeme → Outcome
  | [] => ⟨.error .emptyInput, taken, []⟩
  | first :: rest =>
    if first.token = .lparen then
      match readItems limit first.span.start (first :: taken) rest with
      | ⟨.ok _, taken, extra :: rest⟩ =>
        ⟨.error (.unexpected extra.token.text extra.span.start), extra :: taken, rest⟩
      | outcome => outcome
    else
      ⟨.error (.missingOpen first.token.text first.span.start), first :: taken, rest⟩

namespace Cursor

open Text

/-- The outcome with its place as a position, and the cursor moved along. -/
def settle (c : Cursor) (outcome : Outcome) :
    Except (ReadError Position) (List Node) × Cursor :=
  (outcome.result.mapError (ReadError.map c.positionOf),
    { c with taken := outcome.taken, rest := outcome.rest })

/-- Reads the items of a list; the token taken last counts as its opening parenthesis. -/
def readBody (limit : Option Nat) (c : Cursor) :
    Except (ReadError Position) (List Node) × Cursor :=
  c.settle (readItems limit c.lastSpan.start c.taken c.rest)

/-- Reads one list up to the end of the text. -/
def readList (limit : Option Nat) (c : Cursor) :
    Except (ReadError Position) (List Node) × Cursor :=
  c.settle (readWhole limit c.taken c.rest)

end Cursor

/-- Reads a text that is one balanced list, no deeper than the limit, into its items. -/
def readText (limit : Option Nat) (source : String) :
    Except (ReadError Text.Position) (List Node) :=
  ((Cursor.start source).readList limit).1

end PlanText
