import HybridSearch.Checked
import HybridSearch.Number.Integer

/-! Checks of single values. They are lenient: a number may be given as a text that reads as one,
an integer as a number without a fraction, and a truth value as one of a few words. -/

namespace HybridSearch.Checked

/-- A text; nothing else is taken for one. -/
def string : Json → Checked String
  | .string value => accepted value
  | input => reject .notString input

/-- Whether an integer fits into 64 bits with a sign. -/
def fitsWord (value : Int) : Bool :=
  -0x8000000000000000 ≤ value && value < 0x8000000000000000

/-- The integer that a number equals. Its absolute value must fit into 63 bits. -/
def integerOfFloat (input : Json) (number : Float) : Checked Int :=
  if number.isFinite then
    match Number.toInteger? number with
    | some value =>
        if value.natAbs < 0x8000000000000000 then accepted value
        else reject .oversizedInteger input
    | none => reject .fractionalInteger input
  else reject .infiniteInteger input

def integer : Json → Checked Int
  | .integer value => accepted value
  | .bool value => accepted (if value then 1 else 0)
  | .float value => integerOfFloat (.float value) value
  | .string text =>
      match Number.readInteger text with
      | .value value => accepted value
      | .unreadable => reject .unreadableInteger (.string text)
      | .oversized => reject .oversizedInteger (.string text)
  | input => reject .notInteger input

/-- A number; an integer beyond the largest number is none. -/
def number : Json → Checked Float
  | .float value => accepted value
  | .bool value => accepted (if value then 1.0 else 0.0)
  | .integer value =>
      match Number.ofInteger? value with
      | some number => accepted number
      | none => reject .notNumber (.integer value)
  | .string text =>
      match Number.readLax? text with
      | some number => accepted number
      | none => reject .unreadableNumber (.string text)
  | input => reject .notNumber input

/-- The words for a truth value, in lower case. -/
def booleanWord? (word : String) : Option Bool :=
  if word ∈ ["0", "off", "f", "false", "n", "no"] then some false
  else if word ∈ ["1", "on", "t", "true", "y", "yes"] then some true
  else none

/-- The truth value that an integer stands for. One that does not fit into 64 bits is of the wrong
kind altogether. -/
def booleanOfInteger (input : Json) (value : Int) : Checked Bool :=
  if value = 0 then accepted false
  else if value = 1 then accepted true
  else if fitsWord value then reject .unreadableBoolean input
  else reject .notBoolean input

def boolean : Json → Checked Bool
  | .bool value => accepted value
  | .integer value => booleanOfInteger (.integer value) value
  | .float value =>
      match (integerOfFloat (.float value) value).value? with
      | some whole => booleanOfInteger (.float value) whole
      | none => reject .notBoolean (.float value)
  | .string text =>
      match booleanWord? (text.map Char.toLower) with
      | some value => accepted value
      | none => reject .unreadableBoolean (.string text)
  | input => reject .notBoolean input

/-- An integer that is not below a bound. -/
def atLeast (least : Int) (input : Json) : Checked Int :=
  (integer input).andThen fun value =>
    if value < least then reject (.below least) input else accepted value

/-- An integer between two bounds, which may be reached. -/
def between (least greatest : Int) (input : Json) : Checked Int :=
  (integer input).andThen fun value =>
    if greatest < value then reject (.above greatest) input
    else if value < least then reject (.below least) input
    else accepted value

end HybridSearch.Checked
