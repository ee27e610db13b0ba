/-!
# The shortest decimal of a binary fraction

A finite positive floating-point number is `mantissa * 2 ^ exponent`, and stands for all reals that
round to it. `shortest` finds the decimal with the fewest digits in that interval; of two with
equally many digits it takes the nearer one, and the larger one of two equally near. All arithmetic
is exact.

`positional` writes the result without an exponent.
-/

namespace XslLowering.Decimal

/-- A power of two. -/
def twoTo (n : Nat) : Nat := Nat.pow 2 n

/-- A power of ten. -/
def tenTo (n : Nat) : Nat := Nat.pow 10 n

/-- The number `mantissa * 2 ^ exponent`. -/
structure Binary where
  mantissa : Nat
  exponent : Int

/-- The number `digits * 10 ^ exponent`. -/
structure Numeral where
  digits : Nat
  exponent : Int

/-- The magnitude of a finite number, from the 64 bits of its standard form. -/
def Binary.ofBits (bits : Nat) : Binary :=
  let fraction := bits % twoTo 52
  let biased : Nat := bits / twoTo 52 % twoTo 11
  if biased = 0 then ⟨fraction, -1074⟩ else ⟨twoTo 52 + fraction, (biased : Int) - 1075⟩

/-- The interval of reals that round to a number, over the common denominator `unit`: the number
itself is `value`, the interval reaches from `low` to `high`, and includes its ends exactly when
`closed`. -/
structure Interval where
  low : Nat
  value : Nat
  high : Nat
  unit : Nat
  closed : Bool

/-- The neighbour below a power of two is only half as far away as the one above. -/
def Binary.interval (b : Binary) : Interval :=
  let up := twoTo b.exponent.toNat
  let unit := 4 * twoTo (-b.exponent).toNat
  let value := 4 * b.mantissa * up
  let below := if b.mantissa = twoTo 52 ∧ b.exponent ≠ -1074 then up else 2 * up
  ⟨value - below, value, value + 2 * up, unit, b.mantissa % 2 = 0⟩

/-- Whether `numerator / unit` lies in the interval. -/
def Interval.contains (i : Interval) (numerator : Nat) : Bool :=
  if i.closed then i.low ≤ numerator && numerator ≤ i.high
  else i.low < numerator && numerator < i.high

/-- The same interval with everything measured in units of `10 ^ exponent`. -/
def Interval.scale (i : Interval) (exponent : Int) : Interval :=
  let up := tenTo (-exponent).toNat
  let down := tenTo exponent.toNat
  ⟨i.low * up, i.value * up, i.high * up, i.unit * down, i.closed⟩

/-- The whole number in the interval that is nearest to the value, if one of the two neighbours of
the value lies in the interval. -/
def Interval.wholeNumber? (i : Interval) : Option Nat :=
  let below := i.value / i.unit
  let belowFits := 0 < below && i.contains (below * i.unit)
  let aboveFits := i.contains ((below + 1) * i.unit)
  if aboveFits && (!belowFits || i.unit ≤ 2 * (i.value - below * i.unit)) then some (below + 1)
  else if belowFits then some below
  else none

/-- Tries ever finer grids, from `10 ^ exponent` on, for a point of the interval. -/
def Interval.shortestFrom (i : Interval) (exponent : Int) : Nat → Numeral
  | 0 => ⟨0, exponent⟩
  | tries + 1 =>
    match (i.scale exponent).wholeNumber? with
    | some digits => ⟨digits, exponent⟩
    | none => i.shortestFrom (exponent - 1) tries

/-- The number of decimal digits of a natural number. -/
def digitCount (n : Nat) : Nat := (Nat.toDigits 10 n).length

/-- A decimal exponent that is at least that of the leading digit. -/
def Interval.leadingExponent (i : Interval) : Int :=
  (digitCount i.value : Int) - digitCount i.unit + 1

/-- The shortest decimal that rounds to a positive number. Seventeen digits always suffice; the
first grids tried may lie above the leading digit. -/
def Binary.shortest (b : Binary) : Numeral :=
  b.interval.shortestFrom b.interval.leadingExponent 24

/-- Writes a decimal without an exponent. -/
def Numeral.positional (d : Numeral) : List Char :=
  let digits := Nat.toDigits 10 d.digits
  if 0 ≤ d.exponent then digits ++ List.replicate d.exponent.toNat '0'
  else
    let places := (-d.exponent).toNat
    if places < digits.length then
      digits.take (digits.length - places) ++ '.' :: digits.drop (digits.length - places)
    else '0' :: '.' :: (List.replicate (places - digits.length) '0' ++ digits)

end XslLowering.Decimal
