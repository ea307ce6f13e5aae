import PlanText.Decimal.Digit
import PlanText.Toml

/-!
Strings and keys of TOML documents. Control characters other than the tab stand nowhere; a
line break in a string of several lines counts as a line feed however it is written.
-/

namespace PlanText.Toml.Strings

open Decimal

/-- A character that may stand in comments and, quotes and backslashes apart, in strings. -/
def isOrdinary (c : Char) : Bool := c = '\t' || (0x20 ≤ c.toNat && c.toNat != 0x7F)

def isSpace (c : Char) : Bool := c = ' ' || c = '\t'

def skipSpaces (text : List Char) : List Char := text.dropWhile isSpace

/-- The text after a line break at its start. -/
def lineBreak? : List Char → Option (List Char)
  | '\n' :: rest => some rest
  | '\r' :: '\n' :: rest => some rest
  | _ => none

/-- A character given by so many hexadecimal digits. Surrogates are no characters. -/
def codePoint (count : Nat) : Reader Char := fun text =>
  match (text.take count).mapM hexDigit? with
  | none => none
  | some digits =>
    let n := ofDigits 16 digits
    if digits.length = count ∧ n.isValidChar then some (Char.ofNat n, text.drop count)
    else none

/-- The character that follows a backslash. -/
def escaped : Reader Char
  | 'b' :: rest => some ('\x08', rest)
  | 't' :: rest => some ('\t', rest)
  | 'n' :: rest => some ('\n', rest)
  | 'f' :: rest => some ('\x0c', rest)
  | 'r' :: rest => some ('\r', rest)
  | '"' :: rest => some ('"', rest)
  | '\\' :: rest => some ('\\', rest)
  | 'u' :: rest => codePoint 4 rest
  | 'U' :: rest => codePoint 8 rest
  | _ => none

/-- A string on one line whose opening quote is read; `done` is what came so far, last one
first. -/
def basicTail : Nat → List Char → Reader String
  | 0, _, _ => none
  | fuel + 1, done, text =>
    match text with
    | [] => none
    | '"' :: rest => some (String.ofList done.reverse, rest)
    | '\\' :: rest =>
      match escaped rest with
      | none => none
      | some (c, rest) => basicTail fuel (c :: done) rest
    | c :: rest => if isOrdinary c then basicTail fuel (c :: done) rest else none

/-- A string on one line without escapes. -/
def literalTail (text : List Char) : Option (String × List Char) :=
  let inner := text.takeWhile fun c => isOrdinary c && c != '\x27'
  match text.drop inner.length with
  | '\x27' :: rest => some (String.ofList inner, rest)
  | _ => none

/-- Skips blanks and line breaks. -/
def skipLines : Nat → List Char → List Char
  | 0, text => text
  | fuel + 1, text =>
    match lineBreak? text with
    | some rest => skipLines fuel rest
    | none =>
      match text with
      | c :: rest => if isSpace c then skipLines fuel rest else text
      | [] => []

/-- A string of several lines whose opening quotes are read. Up to two quotes may stand
before the three that close it. Without escapes a backslash stands for itself, with them one
at the end of a line swallows the blanks up to the next character. -/
def multilineTail (quote : Char) (escapes : Bool) : Nat → List Char → Reader String
  | 0, _, _ => none
  | fuel + 1, done, text =>
    match lineBreak? text with
    | some rest => multilineTail quote escapes fuel ('\n' :: done) rest
    | none =>
      match text with
      | [] => none
      | c :: rest =>
        if c = quote then
          let count := (text.takeWhile (· = quote)).length
          let after := text.drop count
          if count < 3 then
            multilineTail quote escapes fuel (List.replicate count quote ++ done) after
          else if count ≤ 5 then
            some (String.ofList (List.replicate (count - 3) quote ++ done).reverse, after)
          else none
        else if escapes && c = '\\' then
          match lineBreak? (skipSpaces rest) with
          | some rest => multilineTail quote escapes fuel done (skipLines fuel rest)
          | none =>
            match escaped rest with
            | none => none
            | some (d, rest) => multilineTail quote escapes fuel (d :: done) rest
        else if isOrdinary c then multilineTail quote escapes fuel (c :: done) rest
        else none

/-- A line break right after the opening quotes does not count. -/
def afterOpening (text : List Char) : List Char := (lineBreak? text).getD text

def readString (text : List Char) : Option (String × List Char) :=
  let fuel := text.length + 1
  match text with
  | '"' :: '"' :: '"' :: rest => multilineTail '"' true fuel [] (afterOpening rest)
  | '\x27' :: '\x27' :: '\x27' :: rest => multilineTail '\x27' false fuel [] (afterOpening rest)
  | '"' :: rest => basicTail fuel [] rest
  | '\x27' :: rest => literalTail rest
  | _ => none

def isBareKeyChar (c : Char) : Bool :=
  ('a' ≤ c && c ≤ 'z') || ('A' ≤ c && c ≤ 'Z') || isDigit c || c = '-' || c = '_'

/-- A key without dots. -/
def simpleKey (text : List Char) : Option (String × List Char) :=
  match text with
  | '"' :: rest => basicTail (text.length + 1) [] rest
  | '\x27' :: rest => literalTail rest
  | _ =>
    match text.takeWhile isBareKeyChar with
    | [] => none
    | key => some (String.ofList key, text.dropWhile isBareKeyChar)

/-- The most parts of a key, and how deep arrays and inline tables may nest. -/
def nestingLimit : Nat := 79

/-- The parts of a key, with blanks around each. -/
def keyParts : Nat → Reader (List String)
  | 0, _ => none
  | parts + 1, text =>
    match simpleKey (skipSpaces text) with
    | none => none
    | some (key, rest) =>
      match skipSpaces rest with
      | '.' :: rest =>
        match keyParts parts rest with
        | none => none
        | some (keys, rest) => some (key :: keys, rest)
      | rest => some ([key], rest)

def key (text : List Char) : Option (List String × List Char) := keyParts nestingLimit text

end PlanText.Toml.Strings
