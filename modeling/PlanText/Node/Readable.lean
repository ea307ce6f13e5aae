import PlanText.Node
import PlanText.Text.Ranges
import PlanText.Text.Lower
import PlanText.Token

/-!
The tokens that a tree is written with, and the atoms that scanning gives back as they are: not
empty, in lower case, free of what ends a token, and with a question mark at most in front.
-/

namespace PlanText

open Text

/-- A character that no token but a parenthesis holds. -/
def isDelimiter (c : Char) : Bool := isBlank c || c = '(' || c = ')' || c = ';'

def isReadableAtom (text : List Char) : Bool :=
  !text.isEmpty && decide (lower text = text) && text.all (!isDelimiter ·) &&
    text.tail.all (· ≠ '?')

namespace Node

mutual

/-- The tokens that a node is written with: a list is its items between two parentheses, an atom
is one token. -/
def tokens : Node → List Token
  | atom text => [Token.ofAtom text]
  | list items => .lparen :: (itemTokens items ++ [.rparen])

def itemTokens : List Node → List Token
  | [] => []
  | node :: rest => node.tokens ++ itemTokens rest

end

mutual

/-- The atoms of a node from left to right. -/
def atoms : Node → List String
  | atom text => [text]
  | list items => itemAtoms items

def itemAtoms : List Node → List String
  | [] => []
  | node :: rest => node.atoms ++ itemAtoms rest

end

mutual

/-- Every atom of the node is readable. -/
def Readable : Node → Prop
  | atom text => isReadableAtom text.toList = true
  | list items => AllReadable items

def AllReadable : List Node → Prop
  | [] => True
  | node :: rest => node.Readable ∧ AllReadable rest

end

mutual

theorem readable_iff_atoms : (node : Node) →
    (node.Readable ↔ ∀ atom ∈ node.atoms, isReadableAtom atom.toList = true)
  | atom text => by simp [Readable, atoms]
  | list items => allReadable_iff_itemAtoms items

theorem allReadable_iff_itemAtoms : (items : List Node) →
    (AllReadable items ↔ ∀ atom ∈ itemAtoms items, isReadableAtom atom.toList = true)
  | [] => by simp [AllReadable, itemAtoms]
  | node :: rest => by
      rw [AllReadable, itemAtoms, List.forall_mem_append, readable_iff_atoms node,
        allReadable_iff_itemAtoms rest]

end

end Node

end PlanText
