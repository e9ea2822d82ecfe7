import HybridSearch.Number.Reading

/-! Integers read from text. A request or a setting may give an integer as a text with white space
around it, a sign, zeros in front, underscores between its digits, and a point with zeros only
behind it. -/

namespace HybridSearch.Number

open HybridSearch.Text

inductive IntegerReading where
  | value (integer : Int)
  /-- The text is no integer. -/
  | unreadable
  /-- The text begins like an integer that is too long to be read. -/
  | oversized
deriving Repr, DecidableEq

namespace IntegerReading

/-- The number of digits of the longest integer that is read. -/
def lengthLimit : Nat := 4300

/-- Whether a character may begin an integer without zeros in front. -/
def isLeading (character : Char) : Bool :=
  character = '-' || (isDigit character && character ≠ '0')

/-- What stands before a number and is kept, a minus sign or nothing, and the number. A minus sign
must not follow a plus sign. -/
def splitSign? : List Char → Option (List Char × List Char)
  | '+' :: '-' :: _ => none
  | '+' :: rest => some ([], rest)
  | '-' :: rest => some (['-'], rest)
  | characters => some ([], characters)

/-- What is left behind zeros and underscores in front of a number, of which `last` was the latest.
Where nothing else comes, or a point, the latest one stays. -/
def behindZeros? (last : Char) : List Char → Option (List Char)
  | [] => some [last]
  | character :: rest =>
      if character = '0' ∨ character = '_' then behindZeros? character rest
      else if isLeading character then some (character :: rest)
      else if character = '.' then some (last :: character :: rest)
      else none

/-- A text without the zeros in front, and without the underscores behind them. -/
def dropZeros? : List Char → Option (List Char)
  | [] => none
  | first :: rest =>
      if first = '0' then behindZeros? first rest
      else if isLeading first then some (first :: rest)
      else none

/-- A text without a point that only zeros follow, at least one. -/
def dropFraction (characters : List Char) : List Char :=
  match characters.dropWhile (· ≠ '.') with
  | _ :: '0' :: rest =>
      if rest.all (· = '0') then characters.takeWhile (· ≠ '.') else characters
  | _ => characters

/-- A text without underscores, where each of them stands alone inside it. -/
def dropUnderscores (characters : List Char) : List Char :=
  if characters.head? = some '_' ∨ characters.getLast? = some '_' ∨
      hasDoubledUnderscore characters then characters
  else characters.filter (· ≠ '_')

/-- The part of an integer behind its sign: a zero alone, or digits of which the first is none. -/
def ofUnsigned (negative : Bool) (unsigned : List Char) : IntegerReading :=
  let digits := unsigned.takeWhile isDigit
  if unsigned = ['0'] then value 0
  else if digits = [] ∨ digits.head? = some '0' then unreadable
  else if lengthLimit < digits.length then oversized
  else if digits.length < unsigned.length then unreadable
  else
    let magnitude : Int := digitsValue digits
    value (if negative then -magnitude else magnitude)

/-- Reads an integer written with a minus sign or none, and no zeros in front. -/
def ofPlain : List Char → IntegerReading
  | '-' :: unsigned => ofUnsigned true unsigned
  | unsigned => ofUnsigned false unsigned

/-- A text without what may stand in an integer besides its minus sign and its digits: white space
around it, a plus sign, zeros in front, a point with zeros only, and underscores. -/
def plain? (characters : List Char) : Option (List Char) :=
  (splitSign? (trimWhite characters)).bind fun (sign, rest) =>
    (dropZeros? rest).map fun rest => sign ++ dropUnderscores (dropFraction rest)

end IntegerReading

open IntegerReading in
/-- An integer in a request or a setting. Its length counts only where it is written plainly. -/
def readInteger (text : String) : IntegerReading :=
  match ofPlain text.toList with
  | unreadable =>
      match (plain? text.toList).map ofPlain with
      | some (value integer) => value integer
      | _ => unreadable
  | reading => reading

/-- An integer with a sign or none, blanks around it, digits of any script, and single underscores
between them. -/
def readWhole? (text : List Char) : Option Int :=
  let (negative, unsigned) := Numeral.splitSign ((trimBlank text).map asciiForm)
  match joinDigits? false unsigned with
  | some digits =>
      if digits ≠ [] ∧ digits.all isDigit ∧ digits.length ≤ IntegerReading.lengthLimit then
        some (if negative then -(digitsValue digits : Int) else digitsValue digits)
      else none
  | none => none

end HybridSearch.Number
