import PlanText.Decimal.Numeral

/-!
The written forms of a string in YAML. It is written plain where a reader would take the
plain text for the same string. It is put in single quotes where the text would read as
another kind of value or as structure, and in double quotes with escapes where it holds
characters that are not printable.

Two forms are left out, since an atom that is read from a text holds no line break: the literal
form, which a string with a line feed would take, and the folding of a quoted string at a line or
paragraph separator.
-/

namespace PlanText.Yaml

open Decimal

/-- The number that a text of digits writes. -/
def natural? (base : Nat) (text : List Char) : Option Nat :=
  if text.isEmpty then none
  else (text.mapM (digitIn? base)).map (ofDigits base)

/-- The number that digits write, with a mark for their base in front of them if it is not
ten. -/
def marked? : List Char → Option Nat
  | '0' :: 'x' :: digits => natural? 16 digits
  | '0' :: 'o' :: digits => natural? 8 digits
  | '0' :: 'b' :: digits => natural? 2 digits
  | digits => natural? 10 digits

/-- One more than the greatest number of 128 bits. -/
def wideSize : Nat := UInt64.size * UInt64.size

/-- Whole numbers from below zero down to the least of 128 bits with a sign, and up to the
greatest of 128 bits without. -/
def isInteger : List Char → Bool
  | '-' :: digits => (marked? digits).any (2 * · ≤ wideSize)
  | '+' :: digits => (marked? digits).any (· < wideSize)
  | digits => (marked? digits).any (· < wideSize)

/-- A decimal: a sign, digits with a point among or beside them, and an exponent. The sign,
the point and the exponent may be left out. -/
def decimal? (text : List Char) : Option Numeral :=
  let (negative, text) :=
    match text with
    | '-' :: rest => (true, rest)
    | '+' :: rest => (false, rest)
    | _ => (false, text)
  let (whole, text) := spanDigits text
  let (fraction, text) :=
    match text with
    | '.' :: rest => spanDigits rest
    | _ => ([], text)
  if whole.isEmpty && fraction.isEmpty then none
  else
    let exponent : Option (Option Int × List Char) :=
      match text with
      | 'e' :: rest => (spanExponent? rest).map fun (e, rest) => (some e, rest)
      | 'E' :: rest => (spanExponent? rest).map fun (e, rest) => (some e, rest)
      | _ => some (none, text)
    match exponent with
    | some (e, []) => some ⟨negative, whole, fraction, e⟩
    | _ => none

def isFloat (text : List Char) : Bool :=
  let unsigned :=
    match text with
    | '+' :: rest => rest
    | _ => text
  let signedTwice :=
    match text with
    | '+' :: '+' :: _ => true
    | '+' :: '-' :: _ => true
    | _ => false
  ([".inf", ".Inf", ".INF"].map String.toList).contains unsigned ||
    (["-.inf", "-.Inf", "-.INF", ".nan", ".NaN", ".NAN"].map String.toList).contains text ||
    (!signedTwice && (decimal? unsigned).any Numeral.isFinite)

/-- Digits with a zero in front, which some readers take for a number. -/
def isZeroLed (text : List Char) : Bool :=
  let unsigned :=
    match text with
    | '+' :: rest => rest
    | '-' :: rest => rest
    | _ => text
  match unsigned with
  | '0' :: digit :: digits => (digit :: digits).all isDigit
  | _ => false

def isKeyword (text : List Char) : Bool :=
  (["null", "Null", "NULL", "~", "true", "True", "TRUE", "false", "False", "FALSE"].map
    String.toList).contains text

/-- Whether the plain text would be taken for something else than a string. -/
def readsAsOther (text : List Char) : Bool :=
  text.isEmpty || isKeyword text || isInteger text || isFloat text || isZeroLed text

def isPrintable (c : Char) : Bool :=
  let n := c.toNat
  n == 0x0A || (0x20 ≤ n && n ≤ 0x7E) || (0xA0 ≤ n && n ≤ 0xD7FF) ||
    (0xE000 ≤ n && n ≤ 0xFFFD && n != 0xFEFF) || 0x10000 ≤ n

def isLineBreak (c : Char) : Bool :=
  c = '\n' || c = '\r' || c = '\u0085' || c = '\u2028' || c = '\u2029'

/-- A blank, a tab, a null or a line break. -/
def isBlank (c : Char) : Bool := c = ' ' || c = '\t' || c = '\x00' || isLineBreak c

/-- Whether a text goes on with a blank or ends. -/
def atBlank : List Char → Bool
  | [] => true
  | c :: _ => isBlank c

/-- The characters that a plain text does not start with. -/
def indicators : List Char :=
  ['#', ',', '[', ']', '\x7b', '\x7d', '&', '*', '!', '|', '>', '\x27', '"', '%', '@', '\x60']

/-- Whether the first character marks structure. -/
def startsStructure : List Char → Bool
  | [] => false
  | c :: rest =>
    indicators.contains c || ((c = '?' || c = ':' || c = '-') && atBlank rest)

/-- Whether a colon before a blank or a hash sign after one marks structure further on. -/
def hasStructure : Char → List Char → Bool
  | _, [] => false
  | before, c :: rest =>
    (c = ':' && atBlank rest) || (c = '#' && isBlank before) || hasStructure c rest

def marksDocument : List Char → Bool
  | '-' :: '-' :: '-' :: _ => true
  | '.' :: '.' :: '.' :: _ => true
  | _ => false

/-- Whether the text may stand without quotes. -/
def isPlain (text : List Char) : Bool :=
  !readsAsOther text && !marksDocument text && !startsStructure text &&
    (match text with
      | [] => true
      | c :: rest => !hasStructure c rest) &&
    text.head? != some ' ' && text.getLast? != some ' ' && text.all isPrintable

/-- The digits of a number in base sixteen with letters in upper case, to a width. -/
def hexDigits (width n : Nat) : List Char :=
  padded width ((Nat.toDigits 16 n).map Char.toUpper)

def escapeChar (c : Char) : List Char :=
  if c = '"' then ['\\', '"']
  else if c = '\\' then ['\\', '\\']
  else if c = '\x00' then ['\\', '0']
  else if c = '\x07' then ['\\', 'a']
  else if c = '\x08' then ['\\', 'b']
  else if c = '\t' then ['\\', 't']
  else if c = '\n' then ['\\', 'n']
  else if c = '\x0b' then ['\\', 'v']
  else if c = '\x0c' then ['\\', 'f']
  else if c = '\r' then ['\\', 'r']
  else if c = '\x1b' then ['\\', 'e']
  else if c = '\u0085' then ['\\', 'N']
  else if c = '\u2028' then ['\\', 'L']
  else if c = '\u2029' then ['\\', 'P']
  else if isPrintable c then [c]
  else if c.toNat ≤ 0xFF then '\\' :: 'x' :: hexDigits 2 c.toNat
  else if c.toNat ≤ 0xFFFF then '\\' :: 'u' :: hexDigits 4 c.toNat
  else '\\' :: 'U' :: hexDigits 8 c.toNat

def singleQuoted (text : List Char) : List Char :=
  '\x27' :: text.flatMap (fun c => if c = '\x27' then ['\x27', '\x27'] else [c]) ++ ['\x27']

def doubleQuoted (text : List Char) : List Char :=
  '"' :: text.flatMap escapeChar ++ ['"']

/-- The written form of a string. -/
def scalar (text : List Char) : List Char :=
  if isPlain text then text
  else if text.all isPrintable then singleQuoted text
  else doubleQuoted text

end PlanText.Yaml
