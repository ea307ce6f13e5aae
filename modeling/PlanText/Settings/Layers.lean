import PlanText.Keyed
import PlanText.Settings.Error
import PlanText.Settings.Merge
import PlanText.Toml.Reader

/-!
The layers that settings are put together from. The built-in values come first, then all
files, then all values that are set one by one, whatever the order in which files and values
are given.
-/

namespace PlanText

inductive Layer
  | file (path : String)
  | value (key : String) (value : Setting)

/-- Files in order, and values with their paths. A path occurs once, with the value that was
given last. -/
structure Layers where
  files : List String
  values : List (KeyPath × Setting)

namespace Layers

def empty : Layers := ⟨[], []⟩

def add (layers : Layers) : Layer → Except SettingsError Layers
  | .file path => .ok { layers with files := layers.files ++ [path] }
  | .value key value =>
    match KeyPath.parse key with
    | .ok path => .ok { layers with values := Keyed.put path value layers.values }
    | .error fault => .error (.badKey fault)

def addAll (layers : Layers) : List Layer → Except SettingsError Layers
  | [] => .ok layers
  | layer :: rest =>
    match layers.add layer with
    | .ok layers => addAll layers rest
    | .error e => .error e

end Layers

namespace SettingsFile

/-- The path with the extension of settings files after its last name, if it has one. -/
def withExtension (path : String) : String :=
  let names := (path.splitOn "/").reverse.dropWhile fun name => name = "" || name = "."
  match names with
  | [] => path
  | last :: _ =>
    if last = ".." then path else "/".intercalate names.reverse ++ ".toml"

/-- Where a settings file is looked for. -/
def candidates (path : String) : List String := [path, withExtension path]

/-- How messages show the path of a file: without empty names and names for the directory
itself. -/
def shownPath (path : String) : String :=
  let root := if path.toList.head? = some '/' then "/" else ""
  root ++ "/".intercalate ((path.splitOn "/").filter fun name => name ≠ "" && name ≠ ".")

/-- The fields of a settings file. -/
def load (disk : Disk) (path : String) : Except SettingsError (List (String × Setting)) :=
  match (candidates path).find? disk.isFile with
  | none => .error (.missingFile path)
  | some found =>
    match disk.readText found with
    | .error cause => .error (@SettingsError.notText cause)
    | .ok text =>
      match Toml.read text with
      | none => .error (.badDocument (shownPath found))
      | some fields => .ok (Setting.ofTomlFields (some (shownPath found)) fields)

end SettingsFile

namespace Setting

def builtin : Setting :=
  table none [
    ("parser", table none [("max_depth", leaf none (.integer 512))]),
    ("output", table none [("format", leaf none (.text "sexpr"))])]

/-- Adds the fields of a file. -/
def addFields (root : Setting) (fields : List (String × Setting)) : Setting :=
  fields.foldl (fun root (key, value) => root.setKey key value) root

def addFiles (disk : Disk) (root : Setting) : List String → Except SettingsError Setting
  | [] => .ok root
  | path :: rest =>
    match SettingsFile.load disk path with
    | .error e => .error e
    | .ok fields => addFiles disk (root.addFields fields) rest

def addValues (root : Setting) (values : List (KeyPath × Setting)) : Setting :=
  values.foldl (fun root (path, value) => setAt value path.steps root) root

/-- The tree that some layers make over the built-in values. -/
def ofLayers (disk : Disk) (layers : Layers) : Except SettingsError Setting :=
  match addFiles disk builtin layers.files with
  | .error e => .error e
  | .ok root => .ok (root.addValues layers.values)

end Setting

end PlanText
