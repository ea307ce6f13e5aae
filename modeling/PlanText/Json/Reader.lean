import PlanText.Json.Printer
import PlanText.Text.Utf8

/-!
Reading JSON text. Arrays and objects may nest down to a given depth. A text fails in one of
two ways: it ends inside a value, or it holds something that no value continues with.
-/

namespace PlanText.Json

open Text Decimal

inductive Fault
  | truncated
  | malformed
deriving DecidableEq, Repr

/-- A value and the text after it. -/
abbrev Step (α : Type) := Except Fault (α × List Char)

namespace Reader

def isSpace (c : Char) : Bool := c = ' ' || c = '\n' || c = '\t' || c = '\r'

def skipSpaces (text : List Char) : List Char := text.dropWhile isSpace

/-- What a text that cannot go on as it does is at fault for. -/
def faultOf (text : List Char) : Fault := if text.isEmpty then .truncated else .malformed

/-- Four hexadecimal digits. The text is truncated if it is shorter than four bytes. -/
def codeUnit (text : List Char) : Step Nat :=
  if utf8Length text < 4 then .error .truncated
  else match text with
    | a :: b :: c :: d :: rest =>
      match hexDigit? a, hexDigit? b, hexDigit? c, hexDigit? d with
      | some a, some b, some c, some d => .ok (ofDigits 16 [a, b, c, d], rest)
      | _, _, _, _ => .error .malformed
    | _ => .error .malformed

/-- The escape for the second half of a character beyond the first plane. -/
def lowSurrogate : List Char → Step Nat
  | '\\' :: 'u' :: rest =>
    match codeUnit rest with
    | .error e => .error e
    | .ok (unit, rest) =>
      if 0xDC00 ≤ unit ∧ unit ≤ 0xDFFF then .ok (unit, rest) else .error .malformed
  | ['\\'] => .error .truncated
  | text => .error (faultOf text)

/-- A character written as one or two code units. -/
def escapedUnits (text : List Char) : Step Char :=
  match codeUnit text with
  | .error e => .error e
  | .ok (unit, rest) =>
    if 0xDC00 ≤ unit ∧ unit ≤ 0xDFFF then .error .malformed
    else if 0xD800 ≤ unit ∧ unit ≤ 0xDBFF then
      match lowSurrogate rest with
      | .error e => .error e
      | .ok (low, rest) =>
        .ok (Char.ofNat (0x10000 + (unit - 0xD800) * 0x400 + (low - 0xDC00)), rest)
    else .ok (Char.ofNat unit, rest)

/-- The character that follows a backslash. -/
def escaped : List Char → Step Char
  | [] => .error .truncated
  | '"' :: rest => .ok ('"', rest)
  | '\\' :: rest => .ok ('\\', rest)
  | '/' :: rest => .ok ('/', rest)
  | 'b' :: rest => .ok ('\x08', rest)
  | 'f' :: rest => .ok ('\x0c', rest)
  | 'n' :: rest => .ok ('\n', rest)
  | 'r' :: rest => .ok ('\r', rest)
  | 't' :: rest => .ok ('\t', rest)
  | 'u' :: rest => escapedUnits rest
  | _ :: _ => .error .malformed

/-- One character of a string, or `none` for the quote that ends it. -/
def stringChar : List Char → Step (Option Char)
  | [] => .error .truncated
  | '"' :: rest => .ok (none, rest)
  | '\\' :: rest =>
    match escaped rest with
    | .error e => .error e
    | .ok (c, rest) => .ok (some c, rest)
  | c :: rest => if c.toNat < 0x20 then .error .malformed else .ok (some c, rest)

/-- A string whose opening quote is read; `chars` is what came so far, last one first. -/
def stringTail : Nat → List Char → List Char → Step String
  | 0, _, _ => .error .truncated
  | fuel + 1, chars, text =>
    match stringChar text with
    | .error e => .error e
    | .ok (none, rest) => .ok (String.ofList chars.reverse, rest)
    | .ok (some c, rest) => stringTail fuel (c :: chars) rest

/-- The whole part of a number, which starts with a zero only if it is zero. -/
def wholePart (text : List Char) : Step (List Nat) :=
  match spanDigits text with
  | ([], rest) => .error (faultOf rest)
  | (0 :: _ :: _, _) => .error .malformed
  | (digits, rest) => .ok (digits, rest)

def fractionPart (text : List Char) : Step (List Nat) :=
  match text with
  | '.' :: rest =>
    match spanDigits rest with
    | ([], rest) => .error (faultOf rest)
    | (digits, rest) => .ok (digits, rest)
  | _ => .ok ([], text)

def exponentPart (text : List Char) : Step (Option Int) :=
  let exponent (rest : List Char) : Step (Option Int) :=
    match spanExponent? rest with
    | some (e, rest) => .ok (some e, rest)
    | none =>
      match rest with
      | '+' :: rest => .error (faultOf rest)
      | '-' :: rest => .error (faultOf rest)
      | _ => .error (faultOf rest)
  match text with
  | 'e' :: rest => exponent rest
  | 'E' :: rest => exponent rest
  | _ => .ok (none, text)

/-- Appends digits to a number as long as it fits sixty four bits, and counts the digits that
are left over. -/
def appendDigits : Nat → List Nat → Nat × Nat
  | kept, [] => (kept, 0)
  | kept, d :: rest =>
    if kept * 10 + d < UInt64.size then appendDigits (kept * 10 + d) rest
    else (kept, rest.length + 1)

/-- The leading digits of a number and the power of ten that they count for. -/
def leadingDigits (n : Numeral) : Nat × Int :=
  match appendDigits 0 n.whole with
  | (kept, 0) =>
    let (kept, dropped) := appendDigits kept n.fraction
    (kept, n.scale + dropped)
  | (kept, dropped) => (kept, n.exponent.getD 0 + dropped)

/-- Whether the leading digits times their power of ten, each rounded to a double, give a
finite double. -/
def inDoubleRange (n : Numeral) : Bool :=
  let (digits, power) := leadingDigits n
  if digits == 0 || power ≤ 0 then true
  else if 308 < power then false
  else (Float.ofScientific digits false 0 * Float.ofScientific 1 false power.natAbs).isFinite

def number (text : List Char) : Step Json :=
  let (negative, text) :=
    match text with
    | '-' :: rest => (true, rest)
    | _ => (false, text)
  match wholePart text with
  | .error e => .error e
  | .ok (whole, text) =>
    match fractionPart text with
    | .error e => .error e
    | .ok (fraction, text) =>
      match exponentPart text with
      | .error e => .error e
      | .ok (exponent, rest) =>
        let value : Numeral := ⟨negative, whole, fraction, exponent⟩
        if inDoubleRange value then .ok (.number value, rest) else .error .malformed

/-- The rest of a word that stands for a value. -/
def word (value : Json) : List Char → List Char → Step Json
  | [], rest => .ok (value, rest)
  | _ :: _, [] => .error .truncated
  | c :: letters, d :: rest => if c = d then word value letters rest else .error .malformed

mutual

def value : Nat → Nat → List Char → Step Json
  | 0, _, _ => .error .truncated
  | fuel + 1, depth, text =>
    match text with
    | [] => .error .truncated
    | 'n' :: rest => word .null ['u', 'l', 'l'] rest
    | 't' :: rest => word (.bool true) ['r', 'u', 'e'] rest
    | 'f' :: rest => word (.bool false) ['a', 'l', 's', 'e'] rest
    | '"' :: rest =>
      match stringTail (fuel + 1) [] rest with
      | .error e => .error e
      | .ok (s, rest) => .ok (.string s, rest)
    | '[' :: rest =>
      match depth with
      | 0 => .error .malformed
      | depth + 1 =>
        match skipSpaces rest with
        | ']' :: rest => .ok (.array [], rest)
        | text => elements fuel depth [] text
    | '\x7b' :: rest =>
      match depth with
      | 0 => .error .malformed
      | depth + 1 =>
        match skipSpaces rest with
        | '\x7d' :: rest => .ok (.object [], rest)
        | text => members fuel depth [] text
    | c :: _ => if c = '-' || isDigit c then number text else .error .malformed

/-- An array from one of its elements on; the elements before it are given last one first. -/
def elements : Nat → Nat → List Json → List Char → Step Json
  | 0, _, _, _ => .error .truncated
  | fuel + 1, depth, done, text =>
    match value fuel depth text with
    | .error e => .error e
    | .ok (item, rest) =>
      match skipSpaces rest with
      | ',' :: rest => elements fuel depth (item :: done) (skipSpaces rest)
      | ']' :: rest => .ok (.array (item :: done).reverse, rest)
      | rest => .error (faultOf rest)

/-- An object from one of its fields on; the fields before it are given last one first. -/
def members : Nat → Nat → List (String × Json) → List Char → Step Json
  | 0, _, _, _ => .error .truncated
  | fuel + 1, depth, done, text =>
    match text with
    | '"' :: rest =>
      match stringTail (fuel + 1) [] rest with
      | .error e => .error e
      | .ok (key, rest) =>
        match skipSpaces rest with
        | ':' :: rest =>
          match value fuel depth (skipSpaces rest) with
          | .error e => .error e
          | .ok (item, rest) =>
            match skipSpaces rest with
            | ',' :: rest => members fuel depth ((key, item) :: done) (skipSpaces rest)
            | '\x7d' :: rest => .ok (.object ((key, item) :: done).reverse, rest)
            | rest => .error (faultOf rest)
        | rest => .error (faultOf rest)
    | _ => .error (faultOf text)

end

/-- Enough fuel for a text: no call that shares its text with the call before it calls again
on the same text. -/
def fuelFor (text : List Char) : Nat := 2 * text.length + 2

end Reader

/-- The value at the start of a text, with the blanks before it, and the text after it. -/
def readFirst (depth : Nat) (text : List Char) : Step Json :=
  Reader.value (Reader.fuelFor text) depth (Reader.skipSpaces text)

/-- A text that holds one value. -/
def read (depth : Nat) (text : List Char) : Except Fault Json :=
  match readFirst depth text with
  | .error e => .error e
  | .ok (value, rest) =>
    if (Reader.skipSpaces rest).isEmpty then .ok value else .error .malformed

end PlanText.Json
