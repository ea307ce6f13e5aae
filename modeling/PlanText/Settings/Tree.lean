import PlanText.Keyed
import PlanText.Toml

/-!
Settings before they are checked: a tree of tables and arrays, each value with the file that
it came from, if it came from one.
-/

namespace PlanText

inductive Leaf
  | nothing
  | boolean (value : Bool)
  | integer (value : Int)
  | float (value : Float)
  | text (value : String)
deriving Inhabited

inductive Setting
  | leaf (origin : Option String) (value : Leaf)
  | table (origin : Option String) (fields : List (String × Setting))
  | array (origin : Option String) (items : List Setting)
deriving Inhabited

namespace Setting

def nothing : Setting := leaf none .nothing

def origin : Setting → Option String
  | leaf origin _ => origin
  | table origin _ => origin
  | array origin _ => origin

mutual

/-- A value of a file, with the file as origin of all its parts. -/
def ofToml (origin : Option String) : Toml → Setting
  | .string s => leaf origin (.text s)
  | .integer n => leaf origin (.integer n)
  | .float x => leaf origin (.float x)
  | .boolean b => leaf origin (.boolean b)
  | .datetime s => leaf origin (.text s)
  | .array items => array origin (ofTomlItems origin items)
  | .table fields => table origin (ofTomlFields origin fields)

def ofTomlItems (origin : Option String) : List Toml → List Setting
  | [] => []
  | item :: rest => ofToml origin item :: ofTomlItems origin rest

def ofTomlFields (origin : Option String) : List (String × Toml) → List (String × Setting)
  | [] => []
  | (key, value) :: rest => (key, ofToml origin value) :: ofTomlFields origin rest

end

/-- The setting itself if it is a table, and an empty table otherwise. -/
def asTable : Setting → Setting
  | table origin fields => table origin fields
  | _ => table none []

def asArray : Setting → Setting
  | array origin items => array origin items
  | _ => array none []

def field? (key : String) : Setting → Option Setting
  | table _ fields => Keyed.get? key fields
  | _ => none

/-- Puts a field into a table in place of one with the same key. -/
def put (target : Setting) (key : String) (value : Setting) : Setting :=
  match target with
  | table origin fields => table origin (Keyed.put key value fields)
  | other => other

end Setting

end PlanText
