import PlanText.Keyed
import PlanText.Toml

/-!
Tables while a document or an inline table is put together. Whether a table may be extended
depends on how it came to be.
-/

namespace PlanText.Toml

/-- How a table came to be. -/
inductive TableForm
  /-- By a header or a value of its own. -/
  | explicit
  /-- As the parent of a table with a header. -/
  | implied
  /-- As part of a dotted key. -/
  | dotted
deriving DecidableEq, Repr

inductive Entry
  | value (value : Toml)
  | table (form : TableForm) (fields : List (String × Entry))
  /-- A list of tables, the last one first. -/
  | elements (tables : List (List (String × Entry)))

abbrev Fields := List (String × Entry)

namespace Fields

/-- Changes the table that a path leads to. Missing tables on the way are made in the given
form. A path made of dots does not lead into a table that has a header or is a value. -/
def change (made : TableForm) (act : TableForm → Fields → Option Fields) :
    List String → TableForm → Fields → Option Fields
  | [], form, fields => act form fields
  | key :: path, _, fields =>
    match Keyed.get? key fields with
    | none =>
      (change made act path made []).map fun inner => Keyed.put key (.table made inner) fields
    | some (.value _) => none
    | some (.elements []) => none
    | some (.elements (last :: others)) =>
      (change made act path .explicit last).map fun last =>
        Keyed.put key (.elements (last :: others)) fields
    | some (.table form inner) =>
      if made = .dotted ∧ form = .explicit then none
      else (change made act path form inner).map fun inner =>
        Keyed.put key (.table form inner) fields

/-- Adds a field to a table of any form. A dotted path has to end in a table made by dotted
keys, and the key must be new. -/
def addField (path : List String) (key : String) (value : Toml) (form : TableForm)
    (fields : Fields) : Option Fields :=
  let act (form : TableForm) (fields : Fields) : Option Fields :=
    if !path.isEmpty && form != .dotted then none
    else
      match Keyed.get? key fields with
      | some _ => none
      | none => some (Keyed.put key (.value value) fields)
  change .dotted act path form fields

/-- Opens a table for its header, after all that its parent holds. Only a table that is no
more than a parent so far may get one. -/
def openTable (path : List String) (key : String) (fields : Fields) : Option Fields :=
  let act (_ : TableForm) (fields : Fields) : Option Fields :=
    match Keyed.get? key fields with
    | none => some (Keyed.put key (.table .explicit []) fields)
    | some (.table .implied inner) =>
      some (Keyed.erase key fields ++ [(key, .table .explicit inner)])
    | some _ => none
  change .implied act path .explicit fields

/-- Opens a further element of a list of tables. -/
def openElement (path : List String) (key : String) (fields : Fields) : Option Fields :=
  let act (_ : TableForm) (fields : Fields) : Option Fields :=
    match Keyed.get? key fields with
    | none => some (Keyed.put key (.elements [[]]) fields)
    | some (.elements tables) => some (Keyed.put key (.elements ([] :: tables)) fields)
    | some _ => none
  change .implied act path .explicit fields

end Fields

mutual

def Entry.toToml : Entry → Toml
  | .value value => value
  | .table _ fields => .table (Fields.toToml fields)
  | .elements tables => .array (elementsToToml tables).reverse

def Fields.toToml : List (String × Entry) → List (String × Toml)
  | [] => []
  | (key, entry) :: rest => (key, entry.toToml) :: Fields.toToml rest

def elementsToToml : List (List (String × Entry)) → List Toml
  | [] => []
  | fields :: rest => .table (Fields.toToml fields) :: elementsToToml rest

end

end PlanText.Toml
