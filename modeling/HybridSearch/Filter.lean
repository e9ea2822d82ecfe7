import HybridSearch.Calendar
import HybridSearch.Slot

/-! Typed filters: what a caller asks of one slot, in a form that can only be meaningful. -/

namespace HybridSearch

inductive TextOperator where
  | equal
  | notEqual
  | contains
  | notContains
  | startsWith
  | endsWith
deriving Repr, DecidableEq

namespace TextOperator

def name : TextOperator → String
  | equal => "eq"
  | notEqual => "neq"
  | contains => "contains"
  | notContains => "not_contains"
  | startsWith => "starts_with"
  | endsWith => "ends_with"

def all : List TextOperator :=
  [equal, notEqual, contains, notContains, startsWith, endsWith]

def ofName? (name : String) : Option TextOperator :=
  all.find? fun operator => operator.name = name

end TextOperator

inductive Comparison where
  | equal
  | notEqual
  | greater
  | greaterOrEqual
  | less
  | lessOrEqual
deriving Repr, DecidableEq

namespace Comparison

def name : Comparison → String
  | equal => "eq"
  | notEqual => "neq"
  | greater => "gt"
  | greaterOrEqual => "gte"
  | less => "lt"
  | lessOrEqual => "lte"

def all : List Comparison :=
  [equal, notEqual, greater, greaterOrEqual, less, lessOrEqual]

end Comparison

/-- What a filter asks of a number or a date. -/
inductive RangeOperator where
  | compare (comparison : Comparison)
  | between
deriving Repr, DecidableEq

namespace RangeOperator

def name : RangeOperator → String
  | compare comparison => comparison.name
  | between => "between"

def all : List RangeOperator :=
  Comparison.all.map compare ++ [between]

def ofName? (name : String) : Option RangeOperator :=
  all.find? fun operator => operator.name = name

end RangeOperator

/-- What a filter asks of a truth value. -/
inductive BooleanOperator where
  | equal
  | notEqual
deriving Repr, DecidableEq

namespace BooleanOperator

def name : BooleanOperator → String
  | equal => "eq"
  | notEqual => "neq"

def all : List BooleanOperator :=
  [equal, notEqual]

def ofName? (name : String) : Option BooleanOperator :=
  all.find? fun operator => operator.name = name

end BooleanOperator

/-- A range of ordered values: all that compare with one value in a certain way, or all between two
values, both included. -/
inductive Range (α : Type) where
  | compare (comparison : Comparison) (value : α)
  | between (lower upper : α)
deriving Repr, DecidableEq

namespace Range

/-- The operator by which a range is given. -/
def operator {α : Type} : Range α → RangeOperator
  | compare comparison _ => .compare comparison
  | between _ _ => .between

def bound {α : Type} : Range α → α
  | compare _ value => value
  | between lower _ => lower

/-- The second bound, which only a range between two values has. -/
def upper? {α : Type} : Range α → Option α
  | compare _ _ => none
  | between _ upper => some upper

end Range

/-- A filter on one slot. Its operator and its values belong to the family of the slot. -/
inductive Filter where
  | text (position : Fin 7) (operator : TextOperator) (value : String)
  | number (position : Fin 5) (range : Range Float)
  | date (position : Fin 2) (range : Range Date)
  | boolean (position : Fin 3) (operator : BooleanOperator) (value : Bool)
deriving Repr, DecidableEq

namespace Filter

def slot : Filter → Slot
  | text position _ _ => .text position
  | number position _ => .number position
  | date position _ => .date position
  | boolean position _ _ => .boolean position

def operatorName : Filter → String
  | text _ operator _ => operator.name
  | number _ range => range.operator.name
  | date _ range => range.operator.name
  | boolean _ operator _ => operator.name

end Filter

end HybridSearch
