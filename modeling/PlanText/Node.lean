/-!
Trees of atoms and lists. Nothing here knows what an atom means; an atom that starts with a
question mark is a variable.
-/

namespace PlanText

inductive Node
  | atom (text : String)
  | list (items : List Node)
deriving Repr, Inhabited

namespace Node

mutual

def decideEq : (a b : Node) → Decidable (a = b)
  | atom s, atom t => if h : s = t then isTrue (h ▸ rfl) else isFalse (by simpa using h)
  | atom _, list _ => isFalse nofun
  | list _, atom _ => isFalse nofun
  | list xs, list ys =>
    match decideEqItems xs ys with
    | isTrue h => isTrue (h ▸ rfl)
    | isFalse h => isFalse (by simpa using h)

def decideEqItems : (xs ys : List Node) → Decidable (xs = ys)
  | [], [] => isTrue rfl
  | [], _ :: _ => isFalse nofun
  | _ :: _, [] => isFalse nofun
  | x :: xs, y :: ys =>
    match decideEq x y, decideEqItems xs ys with
    | isTrue h, isTrue k => isTrue (h ▸ k ▸ rfl)
    | isFalse h, _ => isFalse (by simp [h])
    | _, isFalse k => isFalse (by simp [k])

end

instance : DecidableEq Node := decideEq

def isAtom : Node → Bool
  | atom _ => true
  | list _ => false

def isVariable : Node → Bool
  | atom text => text.toList.head? == some '?'
  | list _ => false

def atom? : Node → Option String
  | atom text => some text
  | list _ => none

def items? : Node → Option (List Node)
  | atom _ => none
  | list items => some items

mutual

/-- How deep the parentheses of a node nest: zero for an atom, one for a list of atoms. -/
def depth : Node → Nat
  | atom _ => 0
  | list items => 1 + deepest items

def deepest : List Node → Nat
  | [] => 0
  | node :: rest => max node.depth (deepest rest)

end

/-- The depth of the list that holds these items. -/
def listDepth (items : List Node) : Nat := 1 + deepest items

mutual

/-- The canonical text of a node: one blank between the items of a list. -/
def chars : Node → List Char
  | atom text => text.toList
  | list items => '(' :: itemChars items

/-- The items of a list and the parenthesis that closes it. -/
def itemChars : List Node → List Char
  | [] => [')']
  | [node] => node.chars ++ [')']
  | node :: rest => node.chars ++ ' ' :: itemChars rest

end

def text (node : Node) : String := String.ofList node.chars

/-- The canonical text of the list that holds these items. -/
def listText (items : List Node) : String := (list items).text

end Node

end PlanText
