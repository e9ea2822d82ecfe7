/-! The first elements of a list, up to an end that may be counted from the end of the list. -/

namespace HybridSearch

/-- The elements before an end. A negative end is counted from the end of the list, and an end
outside the list is moved to its border. -/
def takeTo {α : Type} (values : List α) (limit : Int) : List α :=
  if 0 ≤ limit then values.take limit.toNat
  else values.take (values.length + limit).toNat

end HybridSearch
