import PlanText.Decimal.Digit
import PlanText.Toml

/-!
Dates and times of TOML documents, and their normal form: a capital T between date and time,
a capital Z for no offset, and no zeros at the end of a fraction of a second, of which nine
digits count.
-/

namespace PlanText.Toml.Datetime

open Decimal

/-- A number of so many digits. -/
def fixed (count : Nat) : Reader Nat := fun text =>
  match (text.take count).mapM digit? with
  | none => none
  | some ds => if ds.length = count then some (ofDigits 10 ds, text.drop count) else none

/-- A number of two digits below a bound. -/
def twoBelow (bound : Nat) : Reader Nat := fun text =>
  match fixed 2 text with
  | some (n, rest) => if n < bound then some (n, rest) else none
  | none => none

def char (c : Char) : Reader Unit
  | d :: rest => if c = d then some ((), rest) else none
  | [] => none

def isLeap (year : Nat) : Bool :=
  year % 4 == 0 && (year % 100 != 0 || year % 400 == 0)

def daysIn (year month : Nat) : Nat :=
  if month = 2 then if isLeap year then 29 else 28
  else if month = 4 ∨ month = 6 ∨ month = 9 ∨ month = 11 then 30
  else 31

/-- A number in so many digits. -/
def digits (width n : Nat) : List Char := padded width (Nat.toDigits 10 n)

def date : Reader (List Char) := fun text => do
  let (year, text) ← fixed 4 text
  let (_, text) ← char '-' text
  let (month, text) ← twoBelow 13 text
  let (_, text) ← char '-' text
  let (day, text) ← twoBelow 32 text
  if month = 0 ∨ day = 0 ∨ daysIn year month < day then none
  else
    some (digits 4 year ++ '-' :: digits 2 month ++ '-' :: digits 2 day, text)

/-- A fraction of a second without the zeros at its end, and without its point if nothing is
left of it. -/
def fraction (text : List Char) : List Char × List Char :=
  match text with
  | '.' :: rest =>
    match rest.takeWhile isDigit with
    | [] => ([], text)
    | part =>
      let kept := ((part.take 9).reverse.dropWhile (· = '0')).reverse
      (if kept.isEmpty then [] else '.' :: kept, rest.dropWhile isDigit)
  | _ => ([], text)

/-- A time whose hour is below a bound. -/
def timeBelow (hours : Nat) : Reader (List Char) := fun text => do
  let (hour, text) ← twoBelow hours text
  let (_, text) ← char ':' text
  let (minute, text) ← twoBelow 60 text
  let (_, text) ← char ':' text
  let (second, text) ← twoBelow 61 text
  let (part, text) := fraction text
  some (digits 2 hour ++ ':' :: digits 2 minute ++ ':' :: digits 2 second ++ part, text)

def time : Reader (List Char) := timeBelow 24

/-- An offset from universal time, with bounds for its hours and minutes. A negative offset
of nothing counts as positive. -/
def offsetBelow (hours minutes : Nat) : Reader (List Char)
  | 'Z' :: rest => some (['Z'], rest)
  | 'z' :: rest => some (['Z'], rest)
  | sign :: rest =>
    if sign = '+' ∨ sign = '-' then do
      let (hour, text) ← twoBelow hours rest
      let (_, text) ← char ':' text
      let (minute, text) ← twoBelow minutes text
      let total := hour * 60 + minute
      let sign := if total = 0 then '+' else sign
      if total ≤ 24 * 60 then
        some (sign :: digits 2 (total / 60) ++ ':' :: digits 2 (total % 60), text)
      else none
    else none
  | [] => none

def offset : Reader (List Char) := offsetBelow 24 60

/-- The time after a date, and the offset after that, as far as they are there. -/
def timeAfterDate : Reader (List Char)
  | mark :: rest =>
    if mark = 'T' ∨ mark = 't' ∨ mark = ' ' then
      match time rest with
      | none => none
      | some (t, text) =>
        match offset text with
        | none => some ('T' :: t, text)
        | some (o, text) => some ('T' :: t ++ o, text)
    else none
  | [] => none

/-- A date, a date with a time, or a time. -/
def read : Reader String := fun text =>
  match date text with
  | some (d, rest) =>
    match timeAfterDate rest with
    | some (t, rest) => some (String.ofList (d ++ t), rest)
    | none => some (String.ofList d, rest)
  | none => (time text).map fun (t, rest) => (String.ofList t, rest)

/-- The normal form of a text that is a time and nothing else, if a colon is its third
character, or else a date with a time and an offset, each of which may be missing. The hour
may be 24, and an offset may have any number of minutes up to a day. -/
def ofText? (text : List Char) : Option (List Char) :=
  if text[2]? = some ':' then
    match timeBelow 25 text with
    | some (t, []) => some t
    | _ => none
  else do
    let (d, text) ← date text
    let (t, text) ←
      match text with
      | mark :: rest =>
        if mark = 'T' ∨ mark = 't' ∨ mark = ' ' then
          (timeBelow 25 rest).map fun (t, rest) => ('T' :: t, rest)
        else some ([], text)
      | [] => some ([], [])
    match text with
    | [] => some (d ++ t)
    | _ =>
      match offsetBelow 100 100 text with
      | some (o, []) => some (d ++ t ++ o)
      | _ => none

end PlanText.Toml.Datetime
