import PlanText.Json.Printer
import PlanText.Json.Reader
import PlanText.Node

/-!
Trees as JSON: an atom is a string and a list is an array.
-/

namespace PlanText.Node

mutual

def toJson : Node → Json
  | atom text => .string text
  | list items => .array (itemsToJson items)

def itemsToJson : List Node → List Json
  | [] => []
  | node :: rest => node.toJson :: itemsToJson rest

end

mutual

/-- The tree that a value stands for, if it is made of strings and arrays alone. -/
def ofJson? : Json → Option Node
  | .string text => some (atom text)
  | .array items => (itemsOfJson? items).map list
  | _ => none

def itemsOfJson? : List Json → Option (List Node)
  | [] => some []
  | value :: rest =>
    match ofJson? value, itemsOfJson? rest with
    | some node, some nodes => some (node :: nodes)
    | _, _ => none

end

inductive JsonError
  | truncated
  | malformed
  /-- The text holds a value that is no tree. -/
  | notATree
deriving DecidableEq, Repr

def JsonError.ofFault : Json.Fault → JsonError
  | .truncated => .truncated
  | .malformed => .malformed

/-- How deep arrays may nest in a JSON text that is read into a tree. -/
def jsonDepth : Nat := 127

/-- The tree that a JSON text holds. What follows the value is looked at last. -/
def ofJsonText (text : List Char) : Except JsonError Node :=
  match Json.readFirst jsonDepth text with
  | .error fault => .error (.ofFault fault)
  | .ok (value, rest) =>
    match ofJson? value with
    | none => .error .notATree
    | some node =>
      if (Json.Reader.skipSpaces rest).isEmpty then .ok node else .error .malformed

def jsonText (node : Node) : List Char := node.toJson.compact

/-- A line break and so many blanks before a text. -/
def onNewLine (indent : Nat) (text : List Char) : List Char :=
  '\n' :: (List.replicate indent ' ' ++ text)

mutual

/-- A node before a text, with each item of a list on lines of its own, two blanks further
in. -/
def prettyJson (indent : Nat) : Node → List Char → List Char
  | atom text, after => Json.quote text ++ after
  | list [], after => '[' :: ']' :: after
  | list (node :: rest), after =>
    '[' :: onNewLine (indent + 2) (prettyJson (indent + 2) node (prettyRest indent rest after))

/-- The items after the first one and the bracket that closes the list, before a text. -/
def prettyRest (indent : Nat) : List Node → List Char → List Char
  | [], after => onNewLine indent (']' :: after)
  | node :: rest, after =>
    ',' :: onNewLine (indent + 2) (prettyJson (indent + 2) node (prettyRest indent rest after))

end

end PlanText.Node
