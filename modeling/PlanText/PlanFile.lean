import PlanText.Disk
import PlanText.Log
import PlanText.Reading.List

/-!
The two files of a planning task. Every failure names the file at fault, and every record
that is logged on the way names the file it is about.
-/

namespace PlanText

open Text

inductive PlanKind
  | domain
  | problem
deriving DecidableEq, Repr

def PlanKind.name : PlanKind → String
  | domain => "domain"
  | problem => "problem"

/-- A file that is read, with the items of its list. -/
structure PlanFile where
  kind : PlanKind
  path : String
  items : List Node
deriving DecidableEq, Repr

inductive LoadError
  | unreadable (kind : PlanKind) (path : String) (cause : FileError)
  | unparsable (kind : PlanKind) (path : String) (cause : ReadError Position)
deriving DecidableEq, Repr

namespace LoadError

def kind : LoadError → PlanKind
  | unreadable kind _ _ => kind
  | unparsable kind _ _ => kind

def path : LoadError → String
  | unreadable _ path _ => path
  | unparsable _ path _ => path

def readError? : LoadError → Option (ReadError Position)
  | unreadable _ _ _ => none
  | unparsable _ _ cause => some cause

def message : LoadError → String
  | unreadable kind path cause =>
    "could not read " ++ kind.name ++ " file " ++ path ++ ": " ++ cause.message
  | unparsable kind path cause =>
    "could not parse " ++ kind.name ++ " file " ++ path ++ ": " ++ cause.message

end LoadError

/-- A value with the records that were logged on the way to it, in order. -/
structure Logged (α : Type) where
  value : α
  log : List LogRecord

namespace PlanFile

def logTarget : String := "pddl_reader::pddl::loader"

def sizeRecord (kind : PlanKind) (path : String) (size : Nat) : LogRecord :=
  ⟨.debug, logTarget,
    "read " ++ toString size ++ " bytes from " ++ kind.name ++ " file " ++ path⟩

def itemsRecord (kind : PlanKind) (path : String) (count : Nat) : LogRecord :=
  ⟨.info, logTarget,
    "parsed " ++ kind.name ++ " file " ++ path ++ " (" ++ toString count ++ " top-level items)"⟩

/-- Reads a text that is said to come from a file. -/
def ofText (limit : Option Nat) (kind : PlanKind) (path text : String) :
    Logged (Except LoadError PlanFile) :=
  match readText limit text with
  | .ok items => ⟨.ok ⟨kind, path, items⟩, [itemsRecord kind path items.length]⟩
  | .error cause => ⟨.error (.unparsable kind path cause), []⟩

section

variable {m : Type → Type} [Monad m] (read : String → m (Except FileError String))

/-- Loads one file of a task, whatever way the texts of files are read. -/
def loadWith (limit : Option Nat) (kind : PlanKind) (path : String) :
    m (Logged (Except LoadError PlanFile)) := do
  match ← read path with
  | .error cause => return ⟨.error (.unreadable kind path cause), []⟩
  | .ok text =>
    let parsed := ofText limit kind path text
    return ⟨parsed.value, sizeRecord kind path text.utf8ByteSize :: parsed.log⟩

/-- Loads both files of a task. The problem is left alone if the domain fails. -/
def loadPairWith (limit : Option Nat) (domain problem : String) :
    m (Logged (Except LoadError (PlanFile × PlanFile))) := do
  match ← loadWith read limit .domain domain with
  | ⟨.error e, log⟩ => return ⟨.error e, log⟩
  | ⟨.ok first, log⟩ =>
    match ← loadWith read limit .problem problem with
    | ⟨.error e, more⟩ => return ⟨.error e, log ++ more⟩
    | ⟨.ok second, more⟩ => return ⟨.ok (first, second), log ++ more⟩

end

def load (disk : Disk) (limit : Option Nat) (kind : PlanKind) (path : String) :
    Logged (Except LoadError PlanFile) :=
  Id.run (loadWith (fun path => pure (disk.readText path)) limit kind path)

def loadPair (disk : Disk) (limit : Option Nat) (domain problem : String) :
    Logged (Except LoadError (PlanFile × PlanFile)) :=
  Id.run (loadPairWith (fun path => pure (disk.readText path)) limit domain problem)

variable {disk : Disk} {limit : Option Nat} {kind : PlanKind} {path : String}

theorem load_of_error {cause : FileError} (h : disk.readText path = .error cause) :
    load disk limit kind path = ⟨.error (.unreadable kind path cause), []⟩ := by
  simp [load, loadWith, h]

theorem load_of_ok {text : String} (h : disk.readText path = .ok text) :
    load disk limit kind path =
      ⟨(ofText limit kind path text).value,
        sizeRecord kind path text.utf8ByteSize :: (ofText limit kind path text).log⟩ := by
  simp [load, loadWith, h]

end PlanFile

end PlanText
