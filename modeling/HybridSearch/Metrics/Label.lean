import HybridSearch.Json.Comparison

/-! The values of labels. Most are texts, but a caller may give any single value; two of them are
one label if they are equal as values, and each is written as its text. -/

namespace HybridSearch.Metrics

inductive Label where
  | absent
  | bool (value : Bool)
  | integer (value : Int)
  | float (value : Float)
  | text (value : String)
deriving Repr, DecidableEq

namespace Label

/-- The label of a single value. Lists and objects are no labels. -/
def ofJson? : Json → Option Label
  | .null => some absent
  | .bool value => some (bool value)
  | .integer value => some (integer value)
  | .float value => some (float value)
  | .string value => some (text value)
  | .array _ | .object _ => none

def toJson : Label → Json
  | absent => .null
  | bool value => .bool value
  | integer value => .integer value
  | float value => .float value
  | text value => .string value

def same (left right : Label) : Bool :=
  left.toJson.same right.toJson

def isText : Label → Bool
  | text _ => true
  | _ => false

def written (label : Label) : String :=
  label.toJson.text

def allSame : List Label → List Label → Bool
  | [], [] => true
  | left :: lefts, right :: rights => left.same right && allSame lefts rights
  | _, _ => false

/-- Whether one row of labels comes before another one, by the first labels that differ. -/
def allPrecede : List Label → List Label → Except Json.Incomparable Bool
  | left :: lefts, right :: rights =>
      if left.same right then allPrecede lefts rights
      else left.toJson.precedes .less right.toJson
  | lefts, rights => .ok (lefts.isEmpty && !rights.isEmpty)

/-- Whether one row of labels comes before another one. Rows without an order do not. -/
def before (left right : List Label) : Bool :=
  match allPrecede left right with
  | .ok precedes => precedes
  | .error _ => false

end Label

end HybridSearch.Metrics
