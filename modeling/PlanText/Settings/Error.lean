import PlanText.Decimal.Shortest
import PlanText.Disk
import PlanText.Settings.KeyPath
import PlanText.Settings.Tree
import PlanText.Text.Quoted

/-!
What can be wrong with settings.
-/

namespace PlanText

/-- A part of the settings that is a table with one field. -/
inductive SettingsPart
  | parser
  | output
deriving DecidableEq, Repr

namespace SettingsPart

def name : SettingsPart → String
  | parser => "parser"
  | output => "output"

def field : SettingsPart → String
  | parser => "max_depth"
  | output => "format"

def title : SettingsPart → String
  | parser => "ParserConfig"
  | output => "OutputConfig"

end SettingsPart

inductive SettingsError
  | badKey (fault : KeyFault)
  | missingFile (path : String)
  /-- The file that is found does not read as text, for this cause. -/
  | notText {cause : FileError}
  /-- The file that is found reads as text that is no document. -/
  | badDocument (path : String)
  /-- The field of a part holds a value that cannot stand for it. -/
  | wrongType (found expected key : String) (origin : Option String)
  /-- The part is neither a table nor an array. -/
  | wrongShape (part : SettingsPart) (found : Leaf)
  | missingField (part : SettingsPart)
  | emptyArray (part : SettingsPart)

namespace SettingsError

/-- How a message names a value that stands where a table should. -/
def leafText : Leaf → String
  | .nothing => "unit value"
  | .boolean b => "boolean `" ++ toString b ++ "`"
  | .integer n => "integer `" ++ toString n ++ "`"
  | .float x => "floating point `" ++ Decimal.pointedFloatText x ++ "`"
  | .text s => "string " ++ Text.quoted s

/-- What is said of a file that holds no document is up to the reader of documents. Its words
are given for each path. -/
def message (e : SettingsError) (complaint : String → String := fun _ => "") : String :=
  match e with
  | badKey fault => fault.message
  | missingFile path => "configuration file \"" ++ path ++ "\" not found"
  | @notText cause => cause.message
  | badDocument path => complaint path
  | wrongType found expected key origin =>
    "invalid type: " ++ found ++ ", expected " ++ expected ++ " for key `" ++ key ++ "`" ++
      (match origin with
        | some path => " in " ++ path
        | none => "")
  | wrongShape part found =>
    "invalid type: " ++ leafText found ++ ", expected struct " ++ part.title
  | missingField part => "missing field `" ++ part.field ++ "`"
  | emptyArray part => "invalid length 0, expected struct " ++ part.title ++ " with 1 element"

end SettingsError

end PlanText
