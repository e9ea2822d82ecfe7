import HybridSearch.Number.Binary
import HybridSearch.Text.Blank
import HybridSearch.Text.DecimalDigit

/-! Numbers read from text. A decimal numeral has digits with an optional point among or beside
them and an optional exponent; its value is rounded once to the nearest binary number. Two wider
grammars add words for the values that are not finite, underscores between digits, and blanks
around the numeral. -/

namespace HybridSearch.Number

open HybridSearch.Text

/-- The decimal numeral `digits * 10 ^ exponent` with a sign. -/
structure Numeral where
  negative : Bool
  digits : Nat
  exponent : Int
deriving Repr, DecidableEq

def isDigit (character : Char) : Bool :=
  (asciiDigit? character).isSome

def digitsValue (digits : List Char) : Nat :=
  digits.foldl (fun value digit => 10 * value + (asciiDigit? digit).getD 0) 0

namespace Numeral

/-- The nearest binary number. A numeral beyond the largest number is infinite, and one below half
of the least number is zero; those far outside are decided by their length alone. -/
def toFloat (numeral : Numeral) : Float :=
  let length : Int := (Nat.toDigits 10 numeral.digits).length
  let magnitude :=
    if numeral.digits = 0 then 0.0
    else if 310 < length + numeral.exponent then infinity
    else if length + numeral.exponent < -330 then 0.0
    else Float.ofScientific numeral.digits (numeral.exponent < 0) numeral.exponent.natAbs
  if numeral.negative then -magnitude else magnitude

/-- Splits a sign off; without one the number is positive. -/
def splitSign : List Char → Bool × List Char
  | '+' :: rest => (false, rest)
  | '-' :: rest => (true, rest)
  | rest => (false, rest)

/-- The exponent at the end of a numeral; nothing stands for zero. -/
def readExponent? : List Char → Option Int
  | [] => some 0
  | mark :: rest =>
      let (negative, digits) := splitSign rest
      if (mark = 'e' ∨ mark = 'E') ∧ digits ≠ [] ∧ digits.all isDigit then
        some (if negative then -(digitsValue digits : Int) else digitsValue digits)
      else none

/-- Reads a numeral that fills the whole text. -/
def read? (characters : List Char) : Option Numeral :=
  let (negative, unsigned) := splitSign characters
  let whole := unsigned.takeWhile isDigit
  let (fraction, rest) := match unsigned.dropWhile isDigit with
    | '.' :: rest => (rest.takeWhile isDigit, rest.dropWhile isDigit)
    | rest => ([], rest)
  if whole = [] ∧ fraction = [] then none
  else
    (readExponent? rest).map fun exponent =>
      ⟨negative, digitsValue (whole ++ fraction), exponent - fraction.length⟩

end Numeral

/-- The words for infinity and for the value that is no number, in any case of their letters. -/
def readWord? (characters : List Char) : Option Float :=
  let (negative, word) := Numeral.splitSign characters
  let lower := word.map Char.toLower
  if lower = ['i', 'n', 'f'] ∨ lower = ['i', 'n', 'f', 'i', 'n', 'i', 't', 'y'] then
    some (if negative then -infinity else infinity)
  else if lower = ['n', 'a', 'n'] then some notANumber
  else none

def readPlain? (characters : List Char) : Option Float :=
  match Numeral.read? characters with
  | some numeral => some numeral.toFloat
  | none => readWord? characters

/-- Removes underscores, each of which must stand between two digits. `afterDigit` tells whether a
digit stands before the text. -/
def joinDigits? (afterDigit : Bool) : List Char → Option (List Char)
  | [] => some []
  | '_' :: next :: rest =>
      if afterDigit && isDigit next then (joinDigits? true rest).map (next :: ·) else none
  | character :: rest =>
      if character = '_' then none
      else (joinDigits? (isDigit character) rest).map (character :: ·)

/-- A digit of any script as one of the digits `0` to `9`; any other character stays. -/
def asciiForm (character : Char) : Char :=
  match digitValue? character with
  | some value => Char.ofNat ('0'.toNat + value)
  | none => character

/-- A number in a filter value: blanks around it are dropped, digits may be of any script, and
single underscores may stand between digits. -/
def readValue? (text : String) : Option Float :=
  match joinDigits? false ((trimBlank text.toList).map asciiForm) with
  | some characters => readPlain? characters
  | none => none

def hasDoubledUnderscore : List Char → Bool
  | '_' :: '_' :: _ => true
  | _ :: rest => hasDoubledUnderscore rest
  | [] => false

/-- A number in a request or a setting: white space around it is dropped. Where that is no number,
single underscores inside the text, which then has no white space around it, are dropped. -/
def readLax? (text : String) : Option Float :=
  let characters := text.toList
  match readPlain? (trimWhite characters) with
  | some number => some number
  | none =>
      if characters.head? = some '_' ∨ characters.getLast? = some '_' ∨
          hasDoubledUnderscore characters ∨ '_' ∉ characters then none
      else readPlain? (characters.filter (· ≠ '_'))

end HybridSearch.Number
