import HybridSearch.Number.Text

/-! Amounts that are given either as an integer of any size or as a binary number. The two are
compared exactly. -/

namespace HybridSearch

inductive Amount where
  | integer (value : Int)
  | float (value : Float)
deriving Repr, DecidableEq

namespace Amount

/-- The binary number nearest to an amount, unless it lies beyond the largest one. -/
def toFloat? : Amount → Option Float
  | integer value => Number.ofInteger? value
  | float value => some value

/-- Whether one amount is at most another one. What is no number compares with nothing. -/
def atMost : Amount → Amount → Bool
  | integer left, integer right => left ≤ right
  | float left, float right => left ≤ right
  | integer left, float right =>
      if right.isNaN then false
      else if right.isInf then !Number.isNegative right
      else
        let (numerator, denominator) := Number.fraction right
        left * denominator ≤ numerator
  | float left, integer right =>
      if left.isNaN then false
      else if left.isInf then Number.isNegative left
      else
        let (numerator, denominator) := Number.fraction left
        numerator ≤ right * denominator

def less (left right : Amount) : Bool :=
  left.atMost right && !right.atMost left

def same (left right : Amount) : Bool :=
  left.atMost right && right.atMost left

/-- The sum of two amounts. It is a binary number where one of them is, and the other one must have
a binary number near it then. -/
def add? : Amount → Amount → Option Amount
  | integer left, integer right => some (integer (left + right))
  | float left, right => right.toFloat?.map fun right => float (left + right)
  | integer left, float right => (Number.ofInteger? left).map fun left => float (left + right)

def kindName : Amount → String
  | integer _ => "int"
  | float _ => "float"

def text : Amount → String
  | integer value => toString value
  | float value => Number.text value

end Amount

end HybridSearch
