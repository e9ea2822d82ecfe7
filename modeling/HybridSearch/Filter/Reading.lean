import HybridSearch.Calendar.Standard
import HybridSearch.Failure
import HybridSearch.Filter
import HybridSearch.Filter.Raw
import HybridSearch.Text.Lowercase

/-! Reading a raw filter against its slot. A filter that makes no sense is dropped, with the reason;
the only failure is an integer too large to be compared with the numbers of a slot. -/

namespace HybridSearch

inductive DropReason where
  /-- The filter lacks the shape of one. -/
  | malformed
  | unknownSlot
  | fieldType
  | operator
  | missingValue
  | invalidNumber
  | invalidDate
deriving Repr, DecidableEq

namespace DropReason

def name : DropReason → String
  | malformed => "malformed"
  | unknownSlot => "unknown_slot"
  | fieldType => "field_type"
  | operator => "operator"
  | missingValue => "missing_value"
  | invalidNumber => "invalid_number"
  | invalidDate => "invalid_date"

end DropReason

inductive Reading where
  | kept (filter : Filter)
  | dropped (reason : DropReason)
deriving Repr, DecidableEq

namespace Json

/-- The finite number that a value stands for. A truth value stands for none, and a value that is
neither a number nor a text is read by its text. -/
def filterNumber? : Json → Except Failure (Option Float)
  | .null => .ok none
  | .bool _ => .ok none
  | .integer value =>
      match Number.ofInteger? value with
      | some number => .ok (some number)
      | none => .error .integerTooLarge
  | .float value => .ok (some value |>.filter Float.isFinite)
  | value => .ok ((Number.readValue? value.text).filter Float.isFinite)

/-- The date that a value stands for. Its text must look like one before it is read as one, and no
form of a date but one looks so. -/
def filterDate? : Json → Option Date
  | .null => none
  | value =>
      if Date.hasOutline value.text.toList then Date.readStandard? value.text.toList else none

/-- The truth value that a value stands for; all that is not plainly true is false. -/
def filterBoolean : Json → Bool
  | .bool value => value
  | .string text => Text.lowercase (String.ofList (Text.trimBlank text.toList)) = "true"
  | _ => false

end Json

/-- The range that an operator makes of two values. A range between two values with no second one
is the range of the values equal to the first. -/
def RangeOperator.range {α : Type} (operator : RangeOperator) (value : α) (upper? : Option α) :
    Range α :=
  match operator, upper? with
  | .compare comparison, _ => .compare comparison value
  | .between, some upper => .between value upper
  | .between, none => .compare .equal value

namespace RawFilter

def readText (raw : RawFilter) (position : Fin 7) : Reading :=
  match TextOperator.ofName? raw.operator, raw.value with
  | none, _ => .dropped .operator
  | some _, .null => .dropped .missingValue
  | some operator, value => .kept (.text position operator value.text)

/-- Reads a filter on a number slot. The second value is looked at for a range between two values
only. -/
def readNumber (raw : RawFilter) (position : Fin 5) : Except Failure Reading :=
  match RangeOperator.ofName? raw.operator with
  | none => .ok (.dropped .operator)
  | some operator => do
      match ← raw.value.filterNumber? with
      | none => .ok (.dropped .invalidNumber)
      | some value =>
          let upper? ← if operator = .between then raw.valueTo.filterNumber? else .ok none
          .ok (.kept (.number position (operator.range value upper?)))

def readDate (raw : RawFilter) (position : Fin 2) : Reading :=
  match RangeOperator.ofName? raw.operator, raw.value.filterDate? with
  | none, _ => .dropped .operator
  | some _, none => .dropped .invalidDate
  | some operator, some value =>
      .kept (.date position (operator.range value raw.valueTo.filterDate?))

def readBoolean (raw : RawFilter) (position : Fin 3) : Reading :=
  match BooleanOperator.ofName? raw.operator with
  | none => .dropped .operator
  | some operator => .kept (.boolean position operator raw.value.filterBoolean)

/-- Reads a filter: the slot is looked at first, then the type that the filter states for it, then
its operator, and its value last. Values are taken to have texts, as all do that come in a body, where
integers have at most `Json.integerLimit` digits. -/
def read (raw : RawFilter) : Except Failure Reading :=
  match Slot.ofName? raw.slot with
  | none => .ok (.dropped .unknownSlot)
  | some slot =>
      if raw.fieldType ≠ slot.fieldType.name then .ok (.dropped .fieldType)
      else
        match slot with
        | .text position => .ok (raw.readText position)
        | .number position => raw.readNumber position
        | .date position => .ok (raw.readDate position)
        | .boolean position => .ok (raw.readBoolean position)

end RawFilter

end HybridSearch
