import PlanText.Decimal.Numeral

/-!
The values of TOML documents, and the numbers among them as they are read. A table keeps its
fields in the order in which they come up. An underscore may stand between two digits of a number,
and a whole number has to fit sixty four bits with a sign.
-/

namespace PlanText

inductive Toml
  | string (value : String)
  | integer (value : Int)
  | float (value : Float)
  | boolean (value : Bool)
  /-- A date, a time or both, in normal form. -/
  | datetime (value : String)
  | array (items : List Toml)
  | table (fields : List (String × Toml))

/-- Takes what it reads off the start of a text, and leaves the rest. -/
abbrev Toml.Reader (α : Type) := List Char → Option (α × List Char)

namespace Toml.Number

open Decimal

/-- Digits after the first one, each with an underscore before it or without. -/
def moreDigits (digit? : Char → Option Nat) : List Char → List Nat × List Char
  | [] => ([], [])
  | '_' :: c :: rest =>
    match digit? c with
    | some d =>
      let (ds, rest) := moreDigits digit? rest
      (d :: ds, rest)
    | none => ([], '_' :: c :: rest)
  | c :: rest =>
    match digit? c with
    | some d =>
      let (ds, rest) := moreDigits digit? rest
      (d :: ds, rest)
    | none => ([], c :: rest)

/-- One digit or more. -/
def digits (digit? : Char → Option Nat) : Reader (List Nat)
  | [] => none
  | c :: rest => (digit? c).map fun d =>
    let (ds, rest) := moreDigits digit? rest
    (d :: ds, rest)

def sign (text : List Char) : Bool × List Char :=
  match text with
  | '-' :: rest => (true, rest)
  | '+' :: rest => (false, rest)
  | _ => (false, text)

/-- The digits of a whole number. A zero in front stands alone. -/
def wholeDigits : Reader (List Nat)
  | '0' :: rest => some ([0], rest)
  | text => digits digit? text

def inBase (base : Nat) (text : List Char) : Option (Toml × List Char) :=
  match digits (digitIn? base) text with
  | none => none
  | some (ds, rest) =>
    let n := ofDigits base ds
    if n ≤ Int64.maxValue.toInt then some (.integer n, rest) else none

def integer (text : List Char) : Option (Toml × List Char) :=
  match text with
  | '0' :: 'x' :: rest => inBase 16 rest
  | '0' :: 'o' :: rest => inBase 8 rest
  | '0' :: 'b' :: rest => inBase 2 rest
  | _ =>
    let (negative, rest) := sign text
    match wholeDigits rest with
    | none => none
    | some (ds, rest) =>
      let n : Int := ofDigits 10 ds
      let value := if negative then -n else n
      if Int64.minValue.toInt ≤ value ∧ value ≤ Int64.maxValue.toInt then
        some (.integer value, rest)
      else none

def exponent : Reader Int
  | c :: rest =>
    if c = 'e' ∨ c = 'E' then
      let (negative, rest) := sign rest
      (digits digit? rest).map fun (ds, rest) =>
        let n : Int := ofDigits 10 ds
        (if negative then -n else n, rest)
    else none
  | [] => none

/-- A number with a fraction, an exponent or both. -/
def decimal : Reader Numeral := fun text =>
  let (negative, text) := sign text
  match wholeDigits text with
  | none => none
  | some (whole, text) =>
    match text with
    | '.' :: rest =>
      match digits digit? rest with
      | none => none
      | some (fraction, text) =>
        match exponent text with
        | some (e, text) => some (⟨negative, whole, fraction, some e⟩, text)
        | none => some (⟨negative, whole, fraction, none⟩, text)
    | _ =>
      match exponent text with
      | some (e, text) => some (⟨negative, whole, [], some e⟩, text)
      | none => none

/-- Infinity and the value that is no number, with a sign or without. -/
def special (text : List Char) : Option (Toml × List Char) :=
  let (negative, rest) := sign text
  match rest with
  | 'i' :: 'n' :: 'f' :: rest =>
    some (.float (if negative then -(1 / 0) else 1 / 0), rest)
  | 'n' :: 'a' :: 'n' :: rest => some (.float (0 / 0), rest)
  | _ => none

/-- A number beyond the doubles is refused if it is positive and infinite if it is negative. -/
def float (text : List Char) : Option (Toml × List Char) :=
  match decimal text with
  | some (n, rest) =>
    if n.isFinite || n.negative then some (.float n.toFloat, rest) else none
  | none => special text

end Toml.Number

end PlanText
