import KineticScroll.Number.Single

/-!
# Decimal text of a single

A finite single stands for every real number that rounds to it.  Its digits
are the fewest that name one of them, and of those the nearest to the single
itself; an exact tie goes up.  Numbers from a ten-thousandth up to below ten to
the sixteenth are written with a point and at least one digit after it, others
with a power of ten.
-/

namespace KineticScroll

namespace Decimal

/-- The whole number `digits` counted in units of `10 ^ place`. -/
structure Numeral where
  digits : Nat
  place : Int

/--
The numbers from `low` to `high` around `value`, all counted in units of
`2 ^ exponent`.  The ends belong to it when `closed` holds.
-/
structure Interval where
  low : Nat
  value : Nat
  high : Nat
  exponent : Int
  closed : Bool

/-- The leading binary digit of a significand, left out of the stored fraction. -/
def hiddenBit : Nat :=
  8388608

/--
The reals that round to the positive finite single with the given exponent
field and fraction, in quarters of its last binary digit.  Just above a power
of two the gap below is half as wide.
-/
def roundingInterval (exponentField fraction : Nat) : Interval :=
  let normal := exponentField ≠ 0
  let significand := if normal then fraction + hiddenBit else fraction
  let narrowBelow := fraction = 0 ∧ 1 < exponentField
  { low := 4 * significand - (if narrowBelow then 1 else 2)
    value := 4 * significand
    high := 4 * significand + 2
    exponent := (if normal then (exponentField : Int) else 1) - 152
    closed := significand % 2 == 0 }

namespace Interval

/-- Whether `count` units lie in the interval, one unit and one step of it measured alike. -/
def admits (interval : Interval) (unit step count : Nat) : Bool :=
  if interval.closed then
    interval.low * step ≤ count * unit && count * unit ≤ interval.high * step
  else
    interval.low * step < count * unit && count * unit < interval.high * step

/-- The multiple of `10 ^ place` in the interval nearest to its value, if there is one. -/
def nearest? (interval : Interval) (place : Int) : Option Numeral :=
  let unit := Nat.pow 10 place.toNat * Nat.pow 2 (-interval.exponent).toNat
  let step := Nat.pow 2 interval.exponent.toNat * Nat.pow 10 (-place).toNat
  let below := interval.value * step / unit
  let above := below + 1
  let aboveIsNearer :=
    above * unit - interval.value * step ≤ interval.value * step - below * unit
  match interval.admits unit step below, interval.admits unit step above with
  | true, true => some ⟨if aboveIsNearer then above else below, place⟩
  | true, false => some ⟨below, place⟩
  | false, true => some ⟨above, place⟩
  | false, false => none

/-- The coarsest power of ten with a multiple in the interval gives the fewest digits. -/
def shortest (interval : Interval) : Numeral :=
  let places := (List.range 86).map fun index : Nat => (39 - index : Int)
  (places.findSome? interval.nearest?).getD ⟨0, 0⟩

end Interval

namespace Numeral

/-- The power of ten that the first digit counts. -/
def leadingPlace (numeral : Numeral) : Int :=
  (toString numeral.digits).length + numeral.place - 1

def positional (numeral : Numeral) : String :=
  let digits := toString numeral.digits
  let zeros (count : Nat) := String.ofList (List.replicate count '0')
  if 0 ≤ numeral.place then
    digits ++ zeros numeral.place.toNat ++ ".0"
  else if 0 ≤ numeral.leadingPlace then
    let whole := numeral.leadingPlace.toNat + 1
    String.ofList (digits.toList.take whole) ++ "." ++ String.ofList (digits.toList.drop whole)
  else
    "0." ++ zeros (-numeral.leadingPlace - 1).toNat ++ digits

def scientific (numeral : Numeral) : String :=
  let digits := (toString numeral.digits).toList
  let fraction := digits.drop 1
  let mantissa :=
    if fraction.isEmpty then digits else digits.take 1 ++ '.' :: fraction
  String.ofList mantissa ++ "e" ++ toString numeral.leadingPlace

def text (numeral : Numeral) : String :=
  if -4 ≤ numeral.leadingPlace ∧ numeral.leadingPlace ≤ 15 then
    numeral.positional
  else
    numeral.scientific

end Numeral

/-- The text of a single. -/
def ofSingle (value : Single) : String :=
  let bits := value.toBits.toNat
  let exponentField := bits / hiddenBit % 256
  let fraction := bits % hiddenBit
  let sign := if bits / (256 * hiddenBit) = 1 then "-" else ""
  if exponentField = 255 then
    if fraction = 0 then sign ++ "inf" else "NaN"
  else if exponentField = 0 ∧ fraction = 0 then
    sign ++ "0.0"
  else
    sign ++ (roundingInterval exponentField fraction).shortest.text

example : ofSingle 1 = "1.0" ∧ ofSingle (-1) = "-1.0" ∧ ofSingle 0.5 = "0.5" := by
  decide +kernel

end Decimal

end KineticScroll
