import HybridSearch.Json
import HybridSearch.Number.Integer
import HybridSearch.Number.Reading

/-! The binary numbers and the integers that values stand for. -/

namespace HybridSearch.Json

/-- Why a value stands for no binary number. -/
inductive NumberFault where
  /-- The text of no number. -/
  | unreadable (text : String)
  /-- An integer has no binary number near it. -/
  | tooLarge
  /-- A value of a kind that stands for no numbers. -/
  | kind (kindName : String)
deriving Repr, DecidableEq

/-- What is said of a value that stands for no binary number. -/
def NumberFault.message : NumberFault → String
  | unreadable text =>
      "could not convert string to float: " ++ String.ofList (Text.quoted text.toList)
  | tooLarge => "int too large to convert to float"
  | kind kindName =>
      "float() argument must be a string or a real number, not '" ++ kindName ++ "'"

/-- The binary number that a value stands for. A text stands for the number that it is the text of,
and the truth values for one and zero. -/
def toFloat : Json → Except NumberFault Float
  | .bool value => .ok (if value then 1.0 else 0.0)
  | .integer value =>
      match Number.ofInteger? value with
      | some number => .ok number
      | none => .error .tooLarge
  | .float value => .ok value
  | .string value =>
      match Number.readValue? value with
      | some number => .ok number
      | none => .error (.unreadable value)
  | value => .error (.kind value.kindName)

inductive IntegerFault where
  /-- The text of no integer. -/
  | unreadable (text : String)
  /-- A value of a kind that stands for no integers. -/
  | kind (kindName : String)
deriving Repr, DecidableEq

def IntegerFault.message : IntegerFault → String
  | unreadable text =>
      "invalid literal for int() with base 10: " ++ String.ofList (Text.quoted text.toList)
  | kind kindName =>
      "int() argument must be a string, a bytes-like object or a real number, not '" ++ kindName ++
        "'"

/-- The integer that a value stands for. A number loses its fraction. -/
def toInteger : Json → Except IntegerFault Int
  | .bool value => .ok (if value then 1 else 0)
  | .integer value => .ok value
  | .float value => .ok (Number.truncate value)
  | .string value =>
      match Number.readWhole? value.toList with
      | some number => .ok number
      | none => .error (.unreadable value)
  | value => .error (.kind value.kindName)

end HybridSearch.Json
