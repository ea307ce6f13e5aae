import PlanText.Decimal.Digit

/-!
Decimal numerals: digits, a fraction and a power of ten, as they are written, and the double
that lies nearest to them.
-/

namespace PlanText.Decimal

/-- A number as it is written. The exponent is `none` if none is written. -/
structure Numeral where
  negative : Bool
  whole : List Nat
  fraction : List Nat
  exponent : Option Int
deriving Repr, DecidableEq

namespace Numeral

/-- The digits as one number; the numeral is this number times ten to the power `scale`. -/
def significand (n : Numeral) : Nat := ofDigits 10 (n.whole ++ n.fraction)

def scale (n : Numeral) : Int := n.exponent.getD 0 - n.fraction.length

/-- The least power of ten above the absolute value, if that is not zero. -/
def magnitude (n : Numeral) : Int := (Nat.toDigits 10 n.significand).length + n.scale

/-- Half a unit beyond the largest double. A number from here on has no nearest double. -/
def doubleBound : Nat := Nat.pow 2 1024 - Nat.pow 2 970

/-- Whether the nearest double is a finite one. -/
def isFinite (n : Numeral) : Bool :=
  n.significand == 0 || n.magnitude ≤ 308 ||
    (n.magnitude ≤ 310 &&
      if n.scale < 0 then n.significand < doubleBound * Nat.pow 10 n.scale.natAbs
      else n.significand * Nat.pow 10 n.scale.natAbs < doubleBound)

/-- The nearest double; a tie goes to the even one. -/
def toFloat (n : Numeral) : Float :=
  let size : Float :=
    if n.significand == 0 || n.magnitude < -330 then 0
    else if !n.isFinite then 1 / 0
    else Float.ofScientific n.significand (n.scale < 0) n.scale.natAbs
  if n.negative then -size else size

end Numeral

/-- An exponent: a sign that may be left out, and at least one digit. -/
def spanExponent? (text : List Char) : Option (Int × List Char) :=
  let (negative, digits) :=
    match text with
    | '-' :: rest => (true, rest)
    | '+' :: rest => (false, rest)
    | _ => (false, text)
  match spanDigits digits with
  | ([], _) => none
  | (ds, rest) =>
    let size : Int := ofDigits 10 ds
    some (if negative then -size else size, rest)

end PlanText.Decimal
