/-! Rounding of exact quotients, and the quotient of two naturals as a binary number of 53 bits. -/

namespace HybridSearch.Number

/-- The integer nearest to a quotient; a half goes to the even neighbour. -/
def roundHalfEven (numerator denominator : Nat) : Nat :=
  let quotient := numerator / denominator
  let remainder := numerator % denominator
  if 2 * remainder < denominator then quotient
  else if denominator < 2 * remainder then quotient + 1
  else if quotient % 2 = 0 then quotient
  else quotient + 1

def ceilDiv (numerator denominator : Nat) : Nat :=
  (numerator + denominator - 1) / denominator

/-- A quotient rounded to a binary number: `significand * 2 ^ exponent`. -/
structure Quotient where
  significand : Nat
  exponent : Int
deriving Repr, DecidableEq

namespace Quotient

/-- The exponent at which a quotient has 53 bits before the point, or one bit more. No exponent is
below -1074, where the numbers lie closest together. -/
def scale (numerator denominator : Nat) : Int :=
  let bits : Int := numerator.log2 - denominator.log2
  let fits : Bool :=
    numerator * Nat.pow 2 (-bits).toNat < denominator * Nat.pow 2 bits.toNat
  max (if fits then bits - 53 else bits - 52) (-1074)

/-- The quotient of two naturals, rounded once to the nearest number of 53 bits. -/
def of (numerator denominator : Nat) : Quotient :=
  let exponent := scale numerator denominator
  ⟨roundHalfEven (numerator * Nat.pow 2 (-exponent).toNat)
      (denominator * Nat.pow 2 exponent.toNat),
    exponent⟩

def overflows (quotient : Quotient) : Bool :=
  Nat.pow 2 1024 ≤ quotient.significand * Nat.pow 2 quotient.exponent.toNat

def ceil (quotient : Quotient) : Nat :=
  ceilDiv (quotient.significand * Nat.pow 2 quotient.exponent.toNat)
    (Nat.pow 2 (-quotient.exponent).toNat)

end Quotient

end HybridSearch.Number
