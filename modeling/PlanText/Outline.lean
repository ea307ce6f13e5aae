import PlanText.Node

/-!
A tree drawn with one line for each node below the top. The line of a node shows for each of
its ancestors whether more siblings of that ancestor follow, then a connector, then the
label: the atom, cut if it is long, or the number of items.
-/

namespace PlanText.Outline

/-- The most characters of an atom that a label shows. -/
def atomWidth : Nat := 30

def shorten (text : List Char) : List Char :=
  if atomWidth < text.length then text.take atomWidth ++ ['.', '.', '.'] else text

def connector (last : Bool) : List Char := if last then ['└', '─'] else ['├', '─']

/-- What stands under the connector of a node in the lines of its descendants. -/
def trail (last : Bool) : List Char := if last then [' ', ' '] else ['│', ' ']

def label : Node → List Char
  | .atom text => ' ' :: '◦' :: ' ' :: shorten text.toList
  | .list items =>
    ' ' :: '☰' :: ' ' :: Nat.toDigits 10 items.length ++
      if items.length = 1 then " item".toList else " items".toList

mutual

/-- The lines of a node and of its descendants. -/
def nodeLines (margin : List Char) (last : Bool) : Node → List (List Char)
  | .atom text => [margin ++ connector last ++ label (.atom text)]
  | .list items =>
    (margin ++ connector last ++ label (.list items)) ::
      itemLines (margin ++ trail last) items

/-- The lines of the items of one list and of their descendants. -/
def itemLines (margin : List Char) : List Node → List (List Char)
  | [] => []
  | node :: rest => nodeLines margin rest.isEmpty node ++ itemLines margin rest

end

/-- The outline of the list that holds these items, each line with its end. -/
def draw (items : List Node) : String :=
  String.ofList ((itemLines [] items).flatMap (· ++ ['\n']))

end PlanText.Outline
