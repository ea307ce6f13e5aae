/-!
The shortest decimal text of a double. Of the decimals that round to the double, those with
the fewest digits are taken, and of these the nearest to it. The digits are laid out without
an exponent.
-/

namespace PlanText.Decimal

/-- A positive double, `mantissa * 2 ^ exponent`. The doubles next to it lie one unit of the
exponent away, but the lower one only half a unit if `isBinade` holds. -/
structure Binary where
  mantissa : Nat
  exponent : Int
  isBinade : Bool
deriving Repr

namespace Binary

/-- How many fractions a double tells apart between two powers of two. -/
def fractionSize : Nat := Nat.pow 2 52

/-- Reads the sixty three low bits of a finite double. -/
def ofBits (bits : Nat) : Binary :=
  let field : Nat := bits / fractionSize % 2048
  let fraction : Nat := bits % fractionSize
  if field == 0 then ⟨fraction, -1074, false⟩
  else ⟨fraction + fractionSize, (field : Int) - 1075, fraction == 0 && field > 1⟩

/-- Quarter units of the exponent as a fraction, numerator first. -/
def quarters (b : Binary) (count : Nat) : Nat × Nat :=
  let power := b.exponent - 2
  if power < 0 then (count, Nat.pow 2 power.natAbs) else (count * Nat.pow 2 power.natAbs, 1)

/-- Whether `digits * 10 ^ power` rounds to the double. The ends of the interval belong to
it if the mantissa is even. -/
def accepts (b : Binary) (digits : Nat) (power : Int) : Bool :=
  let (low, den) := b.quarters (4 * b.mantissa - if b.isBinade then 1 else 2)
  let (high, _) := b.quarters (4 * b.mantissa + 2)
  let up := if power < 0 then 1 else Nat.pow 10 power.natAbs
  let down := if power < 0 then Nat.pow 10 power.natAbs else 1
  let x := digits * up * den
  if b.mantissa % 2 == 0 then low * down ≤ x && x ≤ high * down
  else low * down < x && x < high * down

/-- The two multiples of `10 ^ power` around the double, as digits, nearer one first, and the
upper one first if both are as near. -/
def neighbours (b : Binary) (power : Int) : Nat × Nat :=
  let (value, den) := b.quarters (4 * b.mantissa)
  let up := if power < 0 then 1 else Nat.pow 10 power.natAbs
  let down := if power < 0 then Nat.pow 10 power.natAbs else 1
  let below := value * down / (den * up)
  let twice := 2 * (value * down)
  if twice < (2 * below + 1) * (den * up) then (below, below + 1) else (below + 1, below)

/-- The power of ten of the first digit. -/
def leading (b : Binary) : Int :=
  let (value, den) := b.quarters (4 * b.mantissa)
  if den ≤ value then ((Nat.toDigits 10 (value / den)).length : Int) - 1
  else
    match (List.range 400).find? fun k => den ≤ value * Nat.pow 10 k with
    | some zeros => -(zeros : Int)
    | none => 0

/-- The first grid, from coarse to fine, with a neighbour that rounds to the double. The
coarsest one is that of the power of ten above the double. -/
def shortest (b : Binary) : Nat × Int :=
  let grids := (List.range 19).map fun (k : Nat) => b.leading + 1 - (k : Int)
  let hit := grids.findSome? fun power =>
    let (near, far) := b.neighbours power
    if b.accepts near power then some (near, power)
    else if b.accepts far power then some (far, power)
    else none
  hit.getD (b.mantissa, b.exponent)

end Binary

/-- Writes `digits * 10 ^ power` without an exponent. -/
def positional (digits : Nat) (power : Int) : String :=
  let text := Nat.toDigits 10 digits
  if 0 ≤ power then
    String.ofList (text ++ List.replicate power.natAbs '0')
  else
    let places := power.natAbs
    let padded := List.replicate (places + 1 - text.length) '0' ++ text
    let whole := padded.take (padded.length - places)
    let fraction := padded.drop (padded.length - places)
    String.ofList (whole ++ '.' :: fraction)

/-- The text of a double: no exponent, and no fraction if it is a whole number. -/
def floatText (x : Float) : String :=
  let bits := x.toBits.toNat
  let size := bits % (2048 * Binary.fractionSize)
  let sign := if bits == size then "" else "-"
  let infinite := 2047 * Binary.fractionSize
  if infinite < size then "NaN"
  else if size == infinite then sign ++ "inf"
  else if size == 0 then sign ++ "0"
  else
    let (digits, power) := (Binary.ofBits size).shortest
    sign ++ positional digits power

/-- The text of a double with a fraction of zero if it is a whole number. -/
def pointedFloatText (x : Float) : String :=
  let text := floatText x
  if x.isFinite && !text.toList.contains '.' then text ++ ".0" else text

end PlanText.Decimal
