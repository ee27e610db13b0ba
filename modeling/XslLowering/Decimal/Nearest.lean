import XslLowering.Decimal.Shortest

/-!
# Reading decimals

`readNumber?` reads a decimal numeral, or a name of infinity or of the number that is none, and
rounds to the nearest floating-point number; of two equally near ones it takes the one whose
mantissa is even. The rounding works on exact fractions.
-/

namespace XslLowering.Decimal

def infinityBits : Nat := 2047 * twoTo 52

def notANumberBits : Nat := infinityBits + twoTo 51

/-- Rounds `numerator / denominator` to a whole number, a half to the even neighbour. -/
def roundHalfEven (numerator denominator : Nat) : Nat :=
  let quotient := numerator / denominator
  let twice := 2 * (numerator % denominator)
  if twice < denominator then quotient
  else if denominator < twice then quotient + 1
  else quotient + quotient % 2

/-- The exponent of the last place of the number nearest to `numerator / denominator`: the one that
leaves 53 binary digits, but no less than -1074. -/
def lastPlace (numerator denominator : Nat) : Int :=
  let estimate := (Nat.log2 numerator : Int) - Nat.log2 denominator - 53
  let tooSmall := numerator * twoTo (-estimate).toNat ≥ denominator * twoTo estimate.toNat * twoTo 53
  max (if tooSmall then estimate + 1 else estimate) (-1074)

/-- The bits of the number nearest to a positive fraction. -/
def nearestBits (numerator denominator : Nat) : Nat :=
  let place := lastPlace numerator denominator
  let mantissa := roundHalfEven (numerator * twoTo (-place).toNat) (denominator * twoTo place.toNat)
  let bits := (place + 1074).toNat * twoTo 52 + mantissa
  if infinityBits ≤ bits then infinityBits else bits

/-- The bits of the number nearest to `digits * 10 ^ exponent`. Exponents far outside the range of
floating-point numbers are settled without computing the power. -/
def nearestDecimalBits (digits : Nat) (exponent : Int) : Nat :=
  let leading := (Nat.toDigits 10 digits).length + exponent
  if digits = 0 then 0
  else if 400 < leading then infinityBits
  else if leading < -400 then 0
  else nearestBits (digits * tenTo exponent.toNat) (tenTo (-exponent).toNat)

/-- A run of decimal digits at the head of a text, and the rest. -/
def digitsOf (cs : List Char) : List Char × List Char :=
  (cs.takeWhile Char.isDigit, cs.dropWhile Char.isDigit)

def digitsValue (digits : List Char) : Nat :=
  digits.foldl (fun n c => 10 * n + (c.toNat - 48)) 0

/-- Reads an exponent: a mark, an optional sign and at least one digit, to the end of the text. -/
def exponent? : List Char → Option Int
  | [] => some 0
  | mark :: rest =>
    if mark == 'e' || mark == 'E' then
      let (negative, rest) := match rest with
        | '-' :: r => (true, r)
        | '+' :: r => (false, r)
        | r => (false, r)
      let (digits, rest) := digitsOf rest
      if digits.isEmpty || !rest.isEmpty then none
      else if negative then some (-(digitsValue digits : Int)) else some (digitsValue digits)
    else none

/-- The bits of an unsigned numeral: digits with an optional point, at least one digit in all, and
an optional exponent. -/
def unsignedBits? (cs : List Char) : Option Nat := do
  let (whole, rest) := digitsOf cs
  let (fraction, rest) := match rest with
    | '.' :: r => digitsOf r
    | r => ([], r)
  if whole.isEmpty && fraction.isEmpty then none
  else
    let exponent ← exponent? rest
    some (nearestDecimalBits (digitsValue (whole ++ fraction)) (exponent - fraction.length))

/-- The bits of a numeral without its sign. -/
def magnitudeBits? (cs : List Char) : Option Nat :=
  let name := String.ofList (cs.map Char.toLower)
  if name == "inf" || name == "infinity" then some infinityBits
  else if name == "nan" then some notANumberBits
  else unsignedBits? cs

/-- Reads a whole text as a number. -/
def readNumber? (cs : List Char) : Option Float :=
  match cs with
  | '-' :: rest => (magnitudeBits? rest).map fun bits => Float.ofBits (bits + twoTo 63).toUInt64
  | '+' :: rest => (magnitudeBits? rest).map fun bits => Float.ofBits bits.toUInt64
  | rest => (magnitudeBits? rest).map fun bits => Float.ofBits bits.toUInt64

end XslLowering.Decimal
