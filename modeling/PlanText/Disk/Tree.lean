import PlanText.Disk

/-!
A file system held in memory. Paths are followed from a starting directory one name at a
time, and a directory exists if it is listed or if something lies below it.
-/

namespace PlanText

inductive FileTree.Entry
  | file (bytes : ByteArray)
  | directory

/-- Entries with the names that lead to them from the starting directory. -/
structure FileTree where
  entries : List (List String × FileTree.Entry)

namespace FileTree

def names (path : String) : List String := path.splitOn "/"

/-- The tree that holds entries under relative paths. -/
def ofPaths (entries : List (String × Entry)) : FileTree :=
  ⟨entries.map fun (path, entry) =>
    ((names path).filter fun name => name ≠ "" && name ≠ ".", entry)⟩

/-- What lies at a place inside the tree. -/
def entry? (t : FileTree) (place : List String) : Option Entry :=
  match t.entries.find? (·.1 == place) with
  | some (_, entry) => some entry
  | none =>
    if place.isEmpty || t.entries.any (fun e => place.isPrefixOf e.1) then some .directory
    else none

/-- A place that following a path leads to. Above the starting directory nothing is known
but that the directories on the way to it exist. -/
inductive Place
  | within (names : List String)
  | above
deriving DecidableEq

def placeEntry? (t : FileTree) : Place → Option Entry
  | .within place => t.entry? place
  | .above => some .directory

/-- The most bytes of a name. -/
def nameLimit : Nat := 255

/-- The most bytes of a path. -/
def pathLimit : Nat := 4095

def follow (t : FileTree) (place : Place) : List String → Except FileError Place
  | [] => .ok place
  | name :: rest =>
    match t.placeEntry? place with
    | none => .error .missing
    | some (.file _) => .error .notDirectory
    | some .directory =>
      if name = "" ∨ name = "." then follow t place rest
      else if nameLimit < name.utf8ByteSize then .error .nameTooLong
      else
        match place with
        | .above => if name = ".." then follow t .above rest else .error .missing
        | .within names =>
          if name = ".." then
            follow t (if names.isEmpty then .above else .within names.dropLast) rest
          else follow t (.within (names ++ [name])) rest

def find (t : FileTree) (path : String) : Except FileError Entry :=
  if path.contains '\x00' then .error .nullInPath
  else if path = "" then .error .missing
  else if pathLimit < path.utf8ByteSize then .error .nameTooLong
  else
    let start : Place := if path.toList.head? = some '/' then .above else .within []
    match t.follow start (names path) with
    | .error e => .error e
    | .ok place =>
      match t.placeEntry? place with
      | none => .error .missing
      | some entry => .ok entry

def disk (t : FileTree) : Disk where
  bytes path :=
    match t.find path with
    | .error e => .error e
    | .ok .directory => .error .isDirectory
    | .ok (.file bytes) => .ok bytes
  isFile path :=
    match t.find path with
    | .ok (.file _) => true
    | _ => false

end FileTree

end PlanText
