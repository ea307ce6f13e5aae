import PlanText.Decimal.Digit

/-!
Paths to settings: a name, then names after dots and positions in brackets. A position below
zero counts from the end.
-/

namespace PlanText

inductive KeyStep
  | child (name : String)
  | index (position : Int)
deriving DecidableEq, Repr

/-- The steps from the root; the first one is a name. -/
structure KeyPath where
  steps : List KeyStep
deriving DecidableEq, Repr

/-- Why a text is no path. -/
inductive KeyFault
  /-- It does not start with a name. -/
  | noName
  /-- A dot is not followed by a name, or something stands where no step starts or ends. -/
  | badStep
  /-- No number follows a bracket. -/
  | noDigit
  /-- The position does not fit sixty four bits with a sign. -/
  | tooLarge
deriving DecidableEq, Repr

def KeyFault.message : KeyFault → String
  | noName => "IsA"
  | badStep => "Char"
  | noDigit => "Digit"
  | tooLarge => "Map on Result"

namespace KeyPath

open Decimal

def isNameChar (c : Char) : Bool :=
  ('a' ≤ c && c ≤ 'z') || ('A' ≤ c && c ≤ 'Z') || isDigit c || c = '_' || c = '-' || c = ' '

def isSpace (c : Char) : Bool := c = ' ' || c = '\t'

/-- A name and the text after it. -/
def name? (text : List Char) : Option (String × List Char) :=
  match text.takeWhile isNameChar with
  | [] => none
  | name => some (String.ofList name, text.dropWhile isNameChar)

/-- A position whose bracket is read, and the text after the bracket that closes it. -/
def position (text : List Char) : Except KeyFault (Int × List Char) :=
  let (negative, text) :=
    match text.dropWhile isSpace with
    | '-' :: rest => (true, rest)
    | text => (false, text)
  match spanDigits text with
  | ([], _) => .error .noDigit
  | (digits, rest) =>
    let size : Int := ofDigits 10 digits
    let n := if negative then -size else size
    if Int64.minValue.toInt ≤ n ∧ n ≤ Int64.maxValue.toInt then
      match rest.dropWhile isSpace with
      | ']' :: rest => .ok (n, rest)
      | _ => .error .badStep
    else .error .tooLarge

def step (text : List Char) : Except KeyFault (KeyStep × List Char) :=
  match text with
  | '.' :: rest =>
    match name? rest with
    | some (name, rest) => .ok (.child name, rest)
    | none => .error .badStep
  | '[' :: rest => (position rest).map fun (n, rest) => (.index n, rest)
  | _ => .error .badStep

def stepsFrom : Nat → List Char → Except KeyFault (List KeyStep)
  | _, [] => .ok []
  | 0, _ => .ok []
  | fuel + 1, text =>
    match step text with
    | .error e => .error e
    | .ok (first, rest) => (stepsFrom fuel rest).map (first :: ·)

def parse (text : String) : Except KeyFault KeyPath :=
  match name? text.toList with
  | none => .error .noName
  | some (name, rest) => (stepsFrom rest.length rest).map fun steps => ⟨.child name :: steps⟩

end KeyPath

end PlanText
