import XslLowering.Decimal.Nearest
import XslLowering.Decimal.Shortest
import XslLowering.Text.Blank

/-!
# Values of callbacks

Callbacks take and give strings, numbers and truth values. Each kind is turned into the others as
expressions do it; a number is written with as few digits as tell it from all others, and never with
an exponent.
-/

namespace XslLowering.Callback

/-- What a callback takes and gives. -/
inductive Value where
  | string (text : String)
  | number (x : Float)
  | boolean (b : Bool)

namespace Value

/-- The text of a number that is neither infinite nor zero. -/
def magnitudeText (x : Float) : String :=
  String.ofList (Decimal.Binary.ofBits (x.toBits.toNat % Decimal.twoTo 63)).shortest.positional

def isNegative (x : Float) : Bool := Decimal.twoTo 63 ≤ x.toBits.toNat

def numberText (x : Float) : String :=
  if x.isNaN then "NaN"
  else
    let sign := if isNegative x then "-" else ""
    if x.isInf then sign ++ "Infinity"
    else if x == 0 then sign ++ "0"
    else sign ++ magnitudeText x

def toText : Value → String
  | .string text => text
  | .number x => numberText x
  | .boolean b => if b then "true" else "false"

/-- Everything is true but the empty string, zero and what is not a number. -/
def toBool : Value → Bool
  | .string text => !text.isEmpty
  | .number x => x != 0 && !x.isNaN
  | .boolean b => b

def notANumber : Float := 0 / 0

def toNumber : Value → Float
  | .string text => (Decimal.readNumber? (Text.trimBlank text.toList)).getD notANumber
  | .number x => x
  | .boolean b => if b then 1 else 0

end Value

end XslLowering.Callback
