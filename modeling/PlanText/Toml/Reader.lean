import PlanText.Toml.Reserved
import PlanText.Toml.Strings
import PlanText.Toml.Table

/-!
Reading TOML documents.
-/

namespace PlanText.Toml

open Strings

/-- Skips blanks, line breaks and comments. -/
def skipGaps : Nat → List Char → List Char
  | 0, text => text
  | fuel + 1, text =>
    match lineBreak? text with
    | some rest => skipGaps fuel rest
    | none =>
      match text with
      | '#' :: rest => skipGaps fuel (rest.dropWhile isOrdinary)
      | c :: rest => if isSpace c then skipGaps fuel rest else text
      | [] => []

/-- The last part of a key, and the parts before it. -/
def splitKey (key : List String) : List String × String :=
  (key.dropLast, key.getLast?.getD "")

def numberLike (text : List Char) : Option (Toml × List Char) :=
  match Datetime.read text with
  | some (value, rest) => some (.datetime value, rest)
  | none =>
    match Number.float text with
    | some result => some result
    | none => Number.integer text

mutual

def value : Nat → Nat → Reader Toml
  | 0, _, _ => none
  | fuel + 1, depth, text =>
    match text with
    | [] => none
    | '"' :: _ => (readString text).map fun (s, rest) => (.string s, rest)
    | '\x27' :: _ => (readString text).map fun (s, rest) => (.string s, rest)
    | 't' :: 'r' :: 'u' :: 'e' :: rest => some (.boolean true, rest)
    | 'f' :: 'a' :: 'l' :: 's' :: 'e' :: rest => some (.boolean false, rest)
    | '[' :: rest =>
      match depth with
      | 0 => none
      | depth + 1 => elements fuel depth [] (skipGaps fuel rest)
    | '\x7b' :: rest =>
      match depth with
      | 0 => none
      | depth + 1 =>
        match skipSpaces rest with
        | '\x7d' :: rest => some (.table [], rest)
        | text => inlineFields fuel depth [] text
    | _ => numberLike text

/-- The elements of an array up to its end. A comma may follow the last one. -/
def elements : Nat → Nat → List Toml → Reader Toml
  | 0, _, _, _ => none
  | fuel + 1, depth, done, text =>
    match text with
    | ']' :: rest => some (.array done.reverse, rest)
    | _ =>
      match value fuel depth text with
      | none => none
      | some (item, rest) =>
        match skipGaps fuel rest with
        | ',' :: rest => elements fuel depth (item :: done) (skipGaps fuel rest)
        | ']' :: rest => some (.array (item :: done).reverse, rest)
        | _ => none

/-- The fields of an inline table from one of them on. No comma may follow the last one. -/
def inlineFields : Nat → Nat → Fields → Reader Toml
  | 0, _, _, _ => none
  | fuel + 1, depth, fields, text =>
    match key text with
    | none => none
    | some (path, rest) =>
      match rest with
      | '=' :: rest =>
        match value fuel depth (skipSpaces rest) with
        | none => none
        | some (item, rest) =>
          let (path, key) := splitKey path
          match fields.addField path key item .explicit with
          | none => none
          | some fields =>
            match skipSpaces rest with
            | ',' :: rest => inlineFields fuel depth fields rest
            | '\x7d' :: rest => some (.table (Fields.toToml fields), rest)
            | _ => none
      | _ => none

end

/-- The fields so far, and the table that the next fields go to. -/
structure Draft where
  fields : Fields
  current : List String

namespace Draft

def addField (d : Draft) (path : List String) (value : Toml) : Option Draft :=
  let (inner, key) := splitKey path
  let act (form : TableForm) (fields : Fields) := fields.addField inner key value form
  (d.fields.change .implied act d.current .explicit).map fun fields => { d with fields }

def openTable (d : Draft) (path : List String) : Option Draft :=
  let (parent, key) := splitKey path
  (d.fields.openTable parent key).map fun fields => ⟨fields, path⟩

def openElement (d : Draft) (path : List String) : Option Draft :=
  let (parent, key) := splitKey path
  (d.fields.openElement parent key).map fun fields => ⟨fields, path⟩

end Draft

/-- The rest of a line: blanks, and a comment. -/
def lineEnd (text : List Char) : Option (List Char) :=
  let text := skipSpaces text
  let text :=
    match text with
    | '#' :: rest => rest.dropWhile isOrdinary
    | _ => text
  if text.isEmpty then some [] else lineBreak? text

/-- One line of a document, which a value may draw out to several. -/
def line (text : List Char) (d : Draft) : Option (Draft × List Char) :=
  match text with
  | '[' :: '[' :: rest =>
    match key rest with
    | some (path, ']' :: ']' :: rest) => (d.openElement path).map (·, rest)
    | _ => none
  | '[' :: rest =>
    match key rest with
    | some (path, ']' :: rest) => (d.openTable path).map (·, rest)
    | _ => none
  | _ =>
    match key text with
    | some (path, '=' :: rest) =>
      match value (2 * text.length + 2) nestingLimit (skipSpaces rest) with
      | some (item, rest) => (d.addField path item).map (·, rest)
      | none => none
    | _ => none

def lines : Nat → Draft → List Char → Option Fields
  | 0, _, _ => none
  | fuel + 1, d, text =>
    match skipSpaces text with
    | [] => some d.fields
    | text =>
      match lineEnd text with
      | some rest => lines fuel d rest
      | none =>
        match line text d with
        | none => none
        | some (d, rest) =>
          match lineEnd rest with
          | none => none
          | some rest => lines fuel d rest

/-- The fields of a document. A byte order mark at its start does not count. A document that
stands for a date has none. -/
def read (document : String) : Option (List (String × Toml)) :=
  let text :=
    match document.toList with
    | '\ufeff' :: rest => rest
    | text => text
  match lines (text.length + 1) ⟨[], []⟩ text with
  | none => none
  | some fields =>
    match resolve (.table (Fields.toToml fields)) with
    | some (.table fields) => some fields
    | _ => none

end PlanText.Toml
