/-! The cosine distance of two vectors. It is taken of vectors with finite components only. All sums
are taken in the order of the components, over the components that are not zero; a store that adds in
another order may round otherwise. -/

namespace HybridSearch

/-- Whether all components of a vector are finite. -/
def isFiniteVector (vector : List Float) : Bool :=
  vector.all Float.isFinite

def scalarProduct (left right : List Float) : Float :=
  (left.zip right).foldl
    (fun sum (first, second) =>
      if first == 0.0 || second == 0.0 then sum else sum + first * second)
    0.0

def squareSum (vector : List Float) : Float :=
  vector.foldl
    (fun sum component => if component == 0.0 then sum else sum + component * component)
    0.0

/-- The cosine distance of two vectors whose components are finite. There is none from a vector of
length zero, nor where the sums leave the numbers. -/
def cosineDistance? (left right : List Float) : Option Float :=
  let norm := (squareSum left).sqrt * (squareSum right).sqrt
  if norm == 0.0 then none
  else
    let distance := 1.0 - scalarProduct left right / norm
    if distance.isNaN then none else some distance

end HybridSearch
