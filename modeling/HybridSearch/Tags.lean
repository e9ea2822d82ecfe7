import HybridSearch.Calendar
import HybridSearch.Slot

/-! The tag values of a chunk, one place for each slot. A slot may be empty. -/

namespace HybridSearch

structure Tags where
  texts : Vector (Option String) 7
  numbers : Vector (Option Float) 5
  dates : Vector (Option Timestamp) 2
  booleans : Vector (Option Bool) 3
deriving DecidableEq, Repr

inductive TagValue where
  | text (value : String)
  | number (value : Float)
  | date (value : Timestamp)
  | boolean (value : Bool)
deriving DecidableEq, Repr

namespace Tags

def empty : Tags where
  texts := Vector.replicate 7 none
  numbers := Vector.replicate 5 none
  dates := Vector.replicate 2 none
  booleans := Vector.replicate 3 none

def get? (tags : Tags) : Slot → Option TagValue
  | .text position => (tags.texts.get position).map .text
  | .number position => (tags.numbers.get position).map .number
  | .date position => (tags.dates.get position).map .date
  | .boolean position => (tags.booleans.get position).map .boolean

end Tags

end HybridSearch
