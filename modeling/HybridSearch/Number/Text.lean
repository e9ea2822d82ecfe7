import HybridSearch.Number.Shortest
import HybridSearch.Number.Rounding

/-! How numbers are written: with the fewest digits that identify them, with two places, or in the
form of the metrics exposition. -/

namespace HybridSearch.Number

/-- An exponent with its mark, its sign and at least two digits. -/
def exponentText (exponent : Int) : List Char :=
  let power := Nat.toDigits 10 exponent.natAbs
  ['e', if exponent < 0 then '-' else '+'] ++ List.replicate (2 - power.length) '0' ++ power

/-- Lays out digits whose leading one has the decimal exponent `point - 1`. From 0.0001 up to below
10^16 the form is positional, with at least one digit after the point; otherwise one digit stands
before the point, and a signed exponent of at least two digits follows. -/
def layout (digits : List Char) (point : Int) : List Char :=
  let count : Int := digits.length
  if -4 < point ∧ point ≤ 16 then
    if point ≤ 0 then '0' :: '.' :: List.replicate (-point).toNat '0' ++ digits
    else if count ≤ point then
      digits ++ List.replicate (point - count).toNat '0' ++ ['.', '0']
    else digits.take point.toNat ++ '.' :: digits.drop point.toNat
  else
    let leading := match digits with
      | first :: second :: rest => first :: '.' :: second :: rest
      | short => short
    leading ++ exponentText (point - 1)

/-- The absolute value of a finite number, with the fewest digits that identify it. -/
def magnitudeText (number : Float) : List Char :=
  let value := Binary.ofFloat number
  if value.significand = 0 then ['0', '.', '0']
  else
    let decimal := value.shortest
    let digits := Nat.toDigits 10 decimal.digits
    layout digits (decimal.exponent + digits.length)

/-- Puts a minus sign before the text of a negative number. -/
def withSign (number : Float) (text : List Char) : List Char :=
  if isNegative number then '-' :: text else text

/-- A number with the fewest digits that identify it. -/
def text (number : Float) : String :=
  if number.isNaN then "nan"
  else if number.isInf then if isNegative number then "-inf" else "inf"
  else String.ofList (withSign number (magnitudeText number))

/-- A number with two places. The exact value is rounded, a half to the even neighbour; a number
that rounds to zero keeps its sign. -/
def twoPlaces (number : Float) : String :=
  if number.isNaN then "nan"
  else if number.isInf then if isNegative number then "-inf" else "inf"
  else
    let (numerator, denominator) := (Binary.ofFloat number).scaled 2
    let digits := Nat.toDigits 10 (roundHalfEven numerator denominator)
    let padded := List.replicate (3 - digits.length) '0' ++ digits
    let whole := padded.length - 2
    String.ofList (withSign number (padded.take whole ++ '.' :: padded.drop whole))

def dropTrailing (digits : List Char) : List Char :=
  (digits.reverse.dropWhile fun character => character = '0' ∨ character = '.').reverse

/-- A number in the metrics exposition: as above, but positive numbers with seven or more digits
before the point are written with an exponent, and infinities carry their sign. -/
def sampleText (number : Float) : String :=
  if number.isNaN then "NaN"
  else if number.isInf then if isNegative number then "-Inf" else "+Inf"
  else
    let characters := withSign number (magnitudeText number)
    let whole := characters.takeWhile (· ≠ '.')
    let fraction := (characters.dropWhile (· ≠ '.')).drop 1
    if !isNegative number && characters.contains '.' && 6 < whole.length then
      let mantissa := match whole with
        | [] => fraction
        | first :: rest => first :: '.' :: rest ++ fraction
      String.ofList (dropTrailing mantissa ++ exponentText (whole.length - 1))
    else String.ofList characters

end HybridSearch.Number
