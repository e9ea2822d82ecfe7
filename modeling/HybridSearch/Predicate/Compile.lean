import HybridSearch.Filter.Reading
import HybridSearch.Predicate

/-! From filters to clauses. Filters on one slot make one clause, and the clauses stand in the order
in which their slots first came. A filter that makes no sense is dropped and leaves no predicate. -/

namespace HybridSearch

namespace TextOperator

/-- The predicate that an operator makes of a value, which is taken in lower case. -/
def predicate (operator : TextOperator) (position : Fin 7) (value : String) : Predicate :=
  let lower := Text.lowercase value
  let body := Pattern.escaped lower.toList
  match operator with
  | equal => .textEqual position false lower
  | notEqual => .textEqual position true lower
  | contains => .textLike position false ⟨true, body, true⟩
  | notContains => .textLike position true ⟨true, body, true⟩
  | startsWith => .textLike position false ⟨false, body, true⟩
  | endsWith => .textLike position false ⟨true, body, false⟩

end TextOperator

namespace Filter

def predicate : Filter → Predicate
  | text position operator value => operator.predicate position value
  | number position range => .number position range
  | date position range => .date position range
  | boolean position operator value => .boolean position (operator = .notEqual) value

end Filter

/-- What becomes of a list of filters: the clauses, all of which must hold, and the reasons for
which filters were dropped, in the order in which they were met. -/
structure Compiled where
  clauses : List Clause
  dropped : List DropReason
deriving Repr, DecidableEq

namespace Compiled

/-- The filters of each slot name, in the order in which the names first came. -/
def groups (filters : List RawFilter) : List (List RawFilter) :=
  (filters.map RawFilter.slot).eraseDups.map fun name =>
    filters.filter fun filter => filter.slot = name

def keptFilters (readings : List Reading) : List Filter :=
  readings.filterMap fun
    | .kept filter => some filter
    | .dropped _ => none

def dropReasons (readings : List Reading) : List DropReason :=
  readings.filterMap fun
    | .kept _ => none
    | .dropped reason => some reason

def ofReadings (readings : List (List Reading)) : Compiled where
  clauses := readings.filterMap fun group =>
    Clause.ofList? ((keptFilters group).map Filter.predicate)
  dropped := readings.flatMap dropReasons

def ofFilters (filters : List RawFilter) : Except Failure Compiled :=
  ((groups filters).mapM (List.mapM RawFilter.read)).map ofReadings

/-- Compiles values of which some may not have the shape of a filter. Those are dropped first. -/
def ofValues (values : List Json) : Except Failure Compiled :=
  let shaped := values.map fun value => (RawFilter.check .plain value).value?
  (ofFilters (shaped.filterMap id)).map fun compiled =>
    { compiled with
      dropped :=
        List.replicate (shaped.countP Option.isNone) .malformed ++ compiled.dropped }

end Compiled

end HybridSearch
