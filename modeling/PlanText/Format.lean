import PlanText.Node

/-!
Output formats and the registry that finds them by name. The registry holds one format for
each name, the one registered last, in ascending order of names.
-/

namespace PlanText

inductive FormatError
  | notFound (name : String)
  | failed (reason : String)
deriving DecidableEq, Repr

def FormatError.message : FormatError → String
  | notFound name => "Format '" ++ name ++ "' not found"
  | failed reason => "Serialization error: " ++ reason

/-- A way to write the items of a list. -/
structure Format where
  name : String
  description : String := ""
  render : List Node → Except FormatError String

/-- The formats in ascending order of their names. -/
structure Registry where
  formats : List Format

namespace Registry

def empty : Registry := ⟨[]⟩

def insertSorted (format : Format) : List Format → List Format
  | [] => [format]
  | other :: rest =>
    if format.name < other.name then format :: other :: rest
    else if format.name = other.name then format :: rest
    else other :: insertSorted format rest

/-- Adds a format in place of one of the same name. -/
def register (r : Registry) (format : Format) : Registry := ⟨insertSorted format r.formats⟩

def ofList (formats : List Format) : Registry := formats.foldl register empty

def get? (r : Registry) (name : String) : Option Format := r.formats.find? (·.name = name)

def names (r : Registry) : List String := r.formats.map Format.name

/-- Writes the items in the format of that name. -/
def render (r : Registry) (name : String) (items : List Node) : Except FormatError String :=
  match r.get? name with
  | none => .error (.notFound name)
  | some format => format.render items

end Registry

end PlanText
