import HybridSearch.Number.Binary

/-! The fewest decimal digits that identify a binary number.

A number stands for all reals that round to it. Among the decimals in that interval the ones with
the fewest digits are wanted, and of these the nearest. The search goes through the grids of 1, 2,
… 17 digits and tests on each the two neighbours of the number, in exact arithmetic. -/

namespace HybridSearch.Number

/-- The decimal `digits * 10 ^ exponent`. -/
structure Digits where
  digits : Nat
  exponent : Int
deriving Repr, DecidableEq

namespace Binary

/-- Compares a decimal with `significand * 2 ^ exponent`. -/
def compareDecimal (decimal : Digits) (significand : Nat) (exponent : Int) : Ordering :=
  compare
    (decimal.digits * Nat.pow 10 decimal.exponent.toNat * Nat.pow 2 (-exponent).toNat)
    (significand * Nat.pow 2 exponent.toNat * Nat.pow 10 (-decimal.exponent).toNat)

/-- Whether a decimal lies among the reals that round to the number. The two ends of the interval
belong to it when the significand is even. -/
def readsBack (value : Binary) (decimal : Digits) : Bool :=
  let lower := 4 * value.significand - (if value.narrowBelow then 1 else 2)
  let upper := 4 * value.significand + 2
  let closed := value.significand % 2 = 0
  let fromLower := compareDecimal decimal lower (value.exponent - 2)
  let fromUpper := compareDecimal decimal upper (value.exponent - 2)
  (fromLower == .gt || (closed && fromLower == .eq)) &&
    (fromUpper == .lt || (closed && fromUpper == .eq))

/-- The least power of ten above a positive number. The estimate from the binary logarithm is at
most one too small or two too large, so a search from there over four powers finds it. -/
def magnitude (value : Binary) : Int :=
  let estimate := ((value.significand.log2 + value.exponent) * 30103).fdiv 100000
  let below (power : Int) : Bool :=
    compareDecimal ⟨1, power⟩ value.significand value.exponent == .gt
  if below estimate then estimate
  else if below (estimate + 1) then estimate + 1
  else if below (estimate + 2) then estimate + 2
  else estimate + 3

/-- The nearest of the number's two neighbours on the grid `10 ^ exponent` among those that read
back; a tie goes to the even digit. -/
def onGrid? (value : Binary) (exponent : Int) : Option Digits :=
  let (numerator, denominator) := value.scaled (-exponent)
  let below := numerator / denominator
  match value.readsBack ⟨below, exponent⟩, value.readsBack ⟨below + 1, exponent⟩ with
  | true, true =>
      match compare (2 * numerator) ((2 * below + 1) * denominator) with
      | .lt => some ⟨below, exponent⟩
      | .gt => some ⟨below + 1, exponent⟩
      | .eq => some ⟨if below % 2 = 0 then below else below + 1, exponent⟩
  | true, false => some ⟨below, exponent⟩
  | false, true => some ⟨below + 1, exponent⟩
  | false, false => none

/-- Removes up to `limit` zeros from the end of the digits. -/
def dropZeros : Nat → Digits → Digits
  | 0, decimal => decimal
  | limit + 1, decimal =>
      if decimal.digits % 10 = 0 then
        dropZeros limit ⟨decimal.digits / 10, decimal.exponent + 1⟩
      else decimal

/-- The number in full, as the digits of its exact decimal expansion. -/
def exactDigits (value : Binary) : Digits :=
  ⟨value.significand * Nat.pow 2 value.exponent.toNat * Nat.pow 5 (-value.exponent).toNat,
   min value.exponent 0⟩

/-- The fewest digits that read back to a positive number, and of these the nearest. -/
def shortest (value : Binary) : Digits :=
  let top := value.magnitude
  match (List.range 17).findSome? fun (count : Nat) => value.onGrid? (top - (count + 1)) with
  | some decimal => dropZeros 17 decimal
  | none => value.exactDigits

end Binary

end HybridSearch.Number
