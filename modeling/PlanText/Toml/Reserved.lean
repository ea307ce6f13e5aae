import PlanText.Toml.Datetime

/-!
The reserved name under which a table stands for a date or a time. It counts in the first
field of a table only; the other fields are then passed over.
-/

namespace PlanText.Toml

def reservedName : String := "$__toml_private_datetime"

mutual

/-- The value with all tables of reserved name turned into dates. There is none if the first
field of such a table is not the text of a date or a time. -/
def resolve : Toml → Option Toml
  | .array items => (resolveItems items).map .array
  | .table fields =>
    match fields with
    | [] => some (.table [])
    | (key, value) :: rest =>
      if key = reservedName then
        match value with
        | .string text => (Datetime.ofText? text.toList).map fun d => .datetime (String.ofList d)
        | _ => none
      else
        match resolve value, resolveFields rest with
        | some value, some rest => some (.table ((key, value) :: rest))
        | _, _ => none
  | value => some value

def resolveItems : List Toml → Option (List Toml)
  | [] => some []
  | item :: rest =>
    match resolve item, resolveItems rest with
    | some item, some rest => some (item :: rest)
    | _, _ => none

def resolveFields : List (String × Toml) → Option (List (String × Toml))
  | [] => some []
  | (key, value) :: rest =>
    match resolve value, resolveFields rest with
    | some value, some rest => some ((key, value) :: rest)
    | _, _ => none

end

end PlanText.Toml
