/-! Stable sorting by insertion. An order is given by which of two values may stand before the
other; values that may each stand before the other keep the order in which they came. -/

namespace HybridSearch

variable {α : Type}

/-- Puts a value before the first element of a list that it may stand before. -/
def insertBy (mayPrecede : α → α → Bool) (value : α) : List α → List α
  | [] => [value]
  | first :: rest =>
      if mayPrecede value first then value :: first :: rest
      else first :: insertBy mayPrecede value rest

/-- Sorts a list: each element is put into the sorted rest of the list. -/
def sortBy (mayPrecede : α → α → Bool) : List α → List α
  | [] => []
  | first :: rest => insertBy mayPrecede first (sortBy mayPrecede rest)

/-! ## Orders that do not hold between all values

An order may refuse to compare two values. Which refusal comes first depends on the order in which
values are compared: the longest run at the start that ascends, or descends, is taken as it is, and
each of the others is put into its place by halving. -/

section Refusal

variable {ε : Type}

/-- Goes on with a run behind its last value. -/
def continueRun (less : α → α → Except ε Bool) (descends : Bool) (last : α) :
    List α → Except ε (List α × List α)
  | [] => .ok ([], [])
  | value :: rest => do
      if (← less value last) = descends then
        let (run, rest) ← continueRun less descends value rest
        return (value :: run, rest)
      else return ([], value :: rest)

/-- The run at the start of a list, in ascending order, and what follows. -/
def firstRun (less : α → α → Except ε Bool) : List α → Except ε (List α × List α)
  | first :: second :: rest => do
      let descends ← less second first
      let (run, rest) ← continueRun less descends second rest
      let whole := first :: second :: run
      return (if descends then whole.reverse else whole, rest)
  | short => .ok (short, [])

/-- The place of a value among sorted ones between two places, which each unit of `fuel` brings
nearer to each other. -/
def placeOf (less : α → α → Except ε Bool) (value : α) (sorted : List α) :
    Nat → Nat → Nat → Except ε Nat
  | 0, low, _ => .ok low
  | fuel + 1, low, high => do
      let middle := (low + high) / 2
      match if low < high then sorted[middle]? else none with
      | some other =>
          if ← less value other then placeOf less value sorted fuel low middle
          else placeOf less value sorted fuel (middle + 1) high
      | none => return low

/-- Puts values into their places among sorted ones. -/
def placeAll (less : α → α → Except ε Bool) (sorted : List α) : List α → Except ε (List α)
  | [] => .ok sorted
  | value :: rest => do
      let place ← placeOf less value sorted sorted.length 0 sorted.length
      placeAll less (sorted.take place ++ value :: sorted.drop place) rest

/-- The first refusal when a list is sorted. -/
def sortingRefusal? (less : α → α → Except ε Bool) (values : List α) : Option ε :=
  let sorted : Except ε (List α) := do
    let (run, rest) ← firstRun less values
    placeAll less run rest
  match sorted with
  | .ok _ => none
  | .error refusal => some refusal

end Refusal

end HybridSearch
