/-! Binary floating-point numbers taken apart. A finite number is a sign and a non-negative value
`significand * 2 ^ exponent`; all that is written of a number is worked out on these integers. -/

namespace HybridSearch.Number

def infinity : Float :=
  Float.ofBits 0x7FF0000000000000

def notANumber : Float :=
  Float.ofBits 0x7FF8000000000000

/-- The absolute value of a finite number. -/
structure Binary where
  significand : Nat
  exponent : Int
  /-- Below a power of two the next number is half as far away as above it. -/
  narrowBelow : Bool
deriving Repr, DecidableEq

namespace Binary

/-- The absolute value of a finite number, read off its bits. -/
def ofFloat (number : Float) : Binary :=
  let bits := number.toBits
  let biased := ((bits >>> 52) &&& 0x7FF).toNat
  let fraction := (bits &&& 0xFFFFFFFFFFFFF).toNat
  if biased = 0 then ⟨fraction, -1074, false⟩
  else ⟨0x10000000000000 + fraction, biased - 1075, fraction = 0 && biased > 1⟩

/-- The value times `10 ^ power`, as a numerator and a denominator. -/
def scaled (value : Binary) (power : Int) : Nat × Nat :=
  (value.significand * Nat.pow 2 value.exponent.toNat * Nat.pow 10 power.toNat,
   Nat.pow 2 (-value.exponent).toNat * Nat.pow 10 (-power).toNat)

end Binary

/-- Whether the sign bit is set; zero has a sign too. -/
def isNegative (number : Float) : Bool :=
  number.toBits >>> 63 == 1

/-- The nearest number to an integer, unless it lies beyond the largest one. -/
def ofInteger? (integer : Int) : Option Float :=
  let magnitude := Float.ofScientific integer.natAbs false 0
  if magnitude.isInf then none
  else some (if integer < 0 then -magnitude else magnitude)

/-- The exact value of a finite number, as a numerator and a positive denominator. -/
def fraction (number : Float) : Int × Nat :=
  let (numerator, denominator) := (Binary.ofFloat number).scaled 0
  (if isNegative number then -(numerator : Int) else numerator, denominator)

def toInteger? (number : Float) : Option Int :=
  if number.isFinite then
    let (numerator, denominator) := fraction number
    if numerator % denominator = 0 then some (numerator / denominator) else none
  else none

/-- The integer part of a finite number: what stands before the point. -/
def truncate (number : Float) : Int :=
  let (numerator, denominator) := fraction number
  numerator.tdiv denominator

end HybridSearch.Number
