import PlanText.Settings.Layers

/-!
The two settings of the program: how deep lists may nest, and the format of output.
-/

namespace PlanText

structure Settings where
  maxDepth : Nat
  format : String
deriving DecidableEq, Repr

namespace Settings

/-- A depth of zero stands for no limit. -/
def limit (s : Settings) : Option Nat := if s.maxDepth = 0 then none else some s.maxDepth

/-- The number that a word or a decimal numeral stands for. -/
def numberOfText? (text : String) : Option Nat :=
  let word := Setting.lowerName text
  if word = "true" ∨ word = "on" ∨ word = "yes" then some 1
  else if word = "false" ∨ word = "off" ∨ word = "no" then some 0
  else
    let digits :=
      match text.toList with
      | '+' :: rest => rest
      | all => all
    if digits.isEmpty then none
    else
      match digits.mapM Decimal.digit? with
      | none => none
      | some ds => (some (Decimal.ofDigits 10 ds)).filter (· < UInt64.size)

/-- How a message names a whole number that is no size. -/
def integerText (n : Int) : String :=
  let bits :=
    if 0 ≤ n then "128-bit unsigned integer"
    else if Int64.minValue.toInt ≤ n then "64-bit integer"
    else "128-bit integer"
  bits ++ " `" ++ toString n ++ "`"

/-- The nearest whole number, halves going away from zero, within the bounds of a size. -/
def roundedSize (x : Float) : Nat := x.round.toUInt64.toNat

/-- The part's field with the key that messages name it by. -/
def fieldOf (part : SettingsPart) : Setting → Except SettingsError (Setting × String)
  | .table origin fields =>
    match (Setting.table origin fields).field? part.field with
    | some value => .ok (value, part.name ++ "." ++ part.field)
    | none => .error (.missingField part)
  | .array _ [] => .error (.emptyArray part)
  | .array _ (first :: _) => .ok (first, part.name ++ "[0]")
  | .leaf _ value => .error (.wrongShape part value)

def sizeOf (key : String) : Setting → Except SettingsError Nat
  | .leaf origin value =>
    match value with
    | .nothing => .error (.wrongType "unit value" "an integer" key origin)
    | .boolean b => .ok (if b then 1 else 0)
    | .integer n =>
      if 0 ≤ n ∧ n < UInt64.size then .ok n.toNat
      else .error (.wrongType (integerText n) "an unsigned 64 bit or less integer" key origin)
    | .float x => .ok (roundedSize x)
    | .text s =>
      match numberOfText? s with
      | some n => .ok n
      | none => .error (.wrongType ("string " ++ Text.quoted s) "an integer" key origin)
  | .table origin _ => .error (.wrongType "map" "an integer" key origin)
  | .array origin _ => .error (.wrongType "sequence" "an integer" key origin)

def textOf (key : String) : Setting → Except SettingsError String
  | .leaf origin value =>
    match value with
    | .nothing => .error (.wrongType "unit value" "a string" key origin)
    | .boolean b => .ok (toString b)
    | .integer n => .ok (toString n)
    | .float x => .ok (Decimal.floatText x)
    | .text s => .ok s
  | .table origin _ => .error (.wrongType "map" "a string" key origin)
  | .array origin _ => .error (.wrongType "sequence" "a string" key origin)

/-- A part of the tree. The built-in values see to it that it is there. -/
def partOf (part : SettingsPart) (root : Setting) : Setting :=
  (root.field? part.name).getD .nothing

def depthIn (root : Setting) : Except SettingsError Nat :=
  match fieldOf .parser (partOf .parser root) with
  | .error e => .error e
  | .ok (value, key) => sizeOf key value

def formatIn (root : Setting) : Except SettingsError String :=
  match fieldOf .output (partOf .output root) with
  | .error e => .error e
  | .ok (value, key) => textOf key value

def ofTree (root : Setting) : Except SettingsError Settings :=
  match depthIn root with
  | .error e => .error e
  | .ok maxDepth =>
    match formatIn root with
    | .error e => .error e
    | .ok format => .ok ⟨maxDepth, format⟩

/-- The settings that some layers make. The keys of values are looked at first, then the
files, then what the settings are. -/
def ofLayers (disk : Disk) (layers : List Layer) : Except SettingsError Settings :=
  match Layers.empty.addAll layers with
  | .error e => .error e
  | .ok layers =>
    match Setting.ofLayers disk layers with
    | .error e => .error e
    | .ok root => ofTree root

end Settings

end PlanText
