import HybridSearch.Json

/-! What is wrong with a value that a caller sent, and where. -/

namespace HybridSearch

/-- One step from a value to a value inside it. -/
inductive PathStep where
  | key (name : String)
  | index (position : Nat)
deriving Repr, DecidableEq

/-- The ways in which a value can fail a check. -/
inductive IssueKind where
  | missing
  | notString
  | notInteger
  | fractionalInteger
  | unreadableInteger
  | infiniteInteger
  | oversizedInteger
  | notNumber
  | unreadableNumber
  | notBoolean
  | unreadableBoolean
  | notList
  /-- The value of a named record is no object. -/
  | notRecord (name : String)
  /-- Part of a request body should be a record and is no object. -/
  | notObject
  | emptyList
  | below (least : Int)
  | above (greatest : Int)
  | refused (reason : String)
  | malformedText
deriving Repr, DecidableEq

namespace IssueKind

def code : IssueKind → String
  | missing => "missing"
  | notString => "string_type"
  | notInteger => "int_type"
  | fractionalInteger => "int_from_float"
  | unreadableInteger => "int_parsing"
  | infiniteInteger => "finite_number"
  | oversizedInteger => "int_parsing_size"
  | notNumber => "float_type"
  | unreadableNumber => "float_parsing"
  | notBoolean => "bool_type"
  | unreadableBoolean => "bool_parsing"
  | notList => "list_type"
  | notRecord _ => "model_type"
  | notObject => "model_attributes_type"
  | emptyList => "too_short"
  | below _ => "greater_than_equal"
  | above _ => "less_than_equal"
  | refused _ => "value_error"
  | malformedText => "json_invalid"

def message : IssueKind → String
  | missing => "Field required"
  | notString => "Input should be a valid string"
  | notInteger => "Input should be a valid integer"
  | fractionalInteger => "Input should be a valid integer, got a number with a fractional part"
  | unreadableInteger =>
      "Input should be a valid integer, unable to parse string as an integer"
  | infiniteInteger => "Input should be a finite number"
  | oversizedInteger => "Unable to parse input string as an integer, exceeded maximum size"
  | notNumber => "Input should be a valid number"
  | unreadableNumber => "Input should be a valid number, unable to parse string as a number"
  | notBoolean => "Input should be a valid boolean"
  | unreadableBoolean => "Input should be a valid boolean, unable to interpret input"
  | notList => "Input should be a valid list"
  | notRecord name => "Input should be a valid dictionary or instance of " ++ name
  | notObject => "Input should be a valid dictionary or object to extract fields from"
  | emptyList => "List should have at least 1 item after validation, not 0"
  | below least => "Input should be greater than or equal to " ++ toString least
  | above greatest => "Input should be less than or equal to " ++ toString greatest
  | refused reason => "Value error, " ++ reason
  | malformedText => "JSON decode error"

end IssueKind

/-- An issue with the place where it was found and the value that was found there. -/
structure Issue where
  kind : IssueKind
  path : List PathStep
  input : Json

namespace Issue

/-- An issue seen from one step further outside. -/
def under (step : PathStep) (issue : Issue) : Issue :=
  { issue with path := step :: issue.path }

end Issue

end HybridSearch
