import PlanText.Format
import PlanText.Node.Json
import PlanText.Outline
import PlanText.Yaml.Sequence

/-!
The formats that are always there.
-/

namespace PlanText.Format

def canonical : Format where
  name := "sexpr"
  description := "Canonical single-line s-expression"
  render items := .ok (Node.listText items ++ "\n")

def json : Format where
  name := "json"
  description := "Nested JSON arrays of strings"
  render items := .ok (String.ofList ((Node.list items).prettyJson 0 ['\n']))

def yaml : Format where
  name := "yaml"
  description := "Nested YAML sequences of strings"
  render items := .ok (Yaml.document items)

def outline : Format where
  name := "treeviz"
  description := "Indented tree, one node per line"
  render items := .ok (Outline.draw items)

def builtin : List Format := [canonical, json, yaml, outline]

end PlanText.Format

namespace PlanText.Registry

def builtin : Registry := ofList Format.builtin

end PlanText.Registry
