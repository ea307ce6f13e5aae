import PlanText.Node
import PlanText.Yaml.Scalar

/-!
Trees as YAML sequences in block form. Each item has a dash; the lines of a nested list stand
two columns further in, the first of them on the line of its dash.
-/

namespace PlanText.Yaml

/-- The lines of an item: a dash before the first line, blanks before the others. -/
def itemLines : List (List Char) → List (List Char)
  | [] => []
  | first :: rest => ('-' :: ' ' :: first) :: rest.map (fun line => ' ' :: ' ' :: line)

mutual

def nodeLines : Node → List (List Char)
  | .atom text => [scalar text.toList]
  | .list [] => [['[', ']']]
  | .list (node :: rest) => itemLines (nodeLines node) ++ restLines rest

def restLines : List Node → List (List Char)
  | [] => []
  | node :: rest => itemLines (nodeLines node) ++ restLines rest

end

/-- The document that holds a list of these items. -/
def document (items : List Node) : String :=
  String.ofList ((nodeLines (.list items)).flatMap (· ++ ['\n']))

end PlanText.Yaml
