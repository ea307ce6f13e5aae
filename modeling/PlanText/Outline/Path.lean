import PlanText.Node.Path
import PlanText.Outline

/-!
The outline line by line. A node is known by its label and by whether each node on the way
down to it, itself included, is the last of its siblings; its line follows from these alone.
-/

namespace PlanText.Outline

/-- A node with its way down from the top: for each step whether it leads to a last sibling. -/
structure Place where
  lasts : List Bool
  node : Node
deriving Repr

mutual

/-- A node and its descendants, each before its own descendants. -/
def nodePlaces (above : List Bool) (last : Bool) : Node → List Place
  | .atom text => [⟨above ++ [last], .atom text⟩]
  | .list items => ⟨above ++ [last], .list items⟩ :: places (above ++ [last]) items

/-- All nodes below a list, in order. -/
def places (above : List Bool) : List Node → List Place
  | [] => []
  | node :: rest => nodePlaces above rest.isEmpty node ++ places above rest

end

def Place.line (p : Place) : List Char :=
  p.lasts.dropLast.flatMap trail ++ connector (p.lasts.getLast?.getD true) ++ label p.node

/-- The path of the next sibling, whether there is one or not. -/
def next : List Nat → List Nat
  | [] => []
  | [i] => [i + 1]
  | i :: j :: path => i :: next (j :: path)

/-- No sibling follows the node at this path below the top. -/
def isLast (top : Node) (path : List Nat) : Bool := (top.at? (next path)).isNone

/-- The node at a path below the top, if there is one, with its way down: for each ancestor and
then for the node itself, whether it is the last of its siblings. -/
def place? (top : Node) (path : List Nat) : Option Place :=
  (top.at? path).map fun node =>
    ⟨(List.range path.length).map fun j => isLast top (path.take (j + 1)), node⟩

end PlanText.Outline
