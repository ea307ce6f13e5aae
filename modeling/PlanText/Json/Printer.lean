import PlanText.Decimal.Numeral

/-!
JSON values, and writing them as text. An object keeps its fields in the order in which they are
written. Quotes, backslashes and control characters are escaped, all else stands for itself.
-/

namespace PlanText

inductive Json
  | null
  | bool (value : Bool)
  | number (value : Decimal.Numeral)
  | string (text : String)
  | array (items : List Json)
  | object (fields : List (String × Json))
deriving Repr

namespace Json

def hexChar (n : Nat) : Char := Nat.digitChar (n % 16)

def escapeChar (c : Char) : List Char :=
  if c = '"' then ['\\', '"']
  else if c = '\\' then ['\\', '\\']
  else if c = '\x08' then ['\\', 'b']
  else if c = '\x0c' then ['\\', 'f']
  else if c = '\n' then ['\\', 'n']
  else if c = '\r' then ['\\', 'r']
  else if c = '\t' then ['\\', 't']
  else if c.toNat < 0x20 then ['\\', 'u', '0', '0', hexChar (c.toNat / 16), hexChar c.toNat]
  else [c]

/-- A string in quotes. -/
def quote (text : String) : List Char := '"' :: text.toList.flatMap escapeChar ++ ['"']

def numeralText (n : Decimal.Numeral) : List Char :=
  let digits (ds : List Nat) : List Char := ds.map Nat.digitChar
  (if n.negative then ['-'] else []) ++ digits n.whole ++
    (if n.fraction.isEmpty then [] else '.' :: digits n.fraction) ++
    match n.exponent with
    | none => []
    | some e => 'e' :: (toString e).toList

mutual

/-- The text of a value without blanks. -/
def compact : Json → List Char
  | .null => "null".toList
  | .bool true => "true".toList
  | .bool false => "false".toList
  | .number n => numeralText n
  | .string text => quote text
  | .array items => '[' :: compactItems items
  | .object fields => '\x7b' :: compactFields fields

def compactItems : List Json → List Char
  | [] => [']']
  | [item] => compact item ++ [']']
  | item :: rest => compact item ++ ',' :: compactItems rest

def compactFields : List (String × Json) → List Char
  | [] => ['\x7d']
  | [(key, item)] => quote key ++ ':' :: compact item ++ ['\x7d']
  | (key, item) :: rest => quote key ++ ':' :: compact item ++ ',' :: compactFields rest

end

/-- A number without fraction and exponent. -/
def ofNat (n : Nat) : Json :=
  .number ⟨false, (Nat.toDigits 10 n).filterMap Decimal.digit?, [], none⟩

end Json

end PlanText
