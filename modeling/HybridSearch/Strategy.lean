import HybridSearch.Failure
import HybridSearch.Number.Rounding

/-! The plan of a search. Few knowledge bases are searched by one query; many, or several with
many results wanted, by one bounded query for each. -/

namespace HybridSearch

structure Strategy where
  /-- One query for each knowledge base, and not one for all. -/
  useParallel : Bool
  /-- The threshold of a search that gives none. -/
  distanceThreshold : Float
  /-- How many chunks each of the queries may return. -/
  parallelLimit : Nat
  /-- Few enough knowledge bases for one query to serve them well. -/
  singleQueryOptimized : Bool
deriving Repr, DecidableEq

namespace Strategy

/-- Above this number of knowledge bases every search is split. -/
def parallelBases : Nat := 4

/-- Above this number of knowledge bases a search for many results is split. -/
def parallelBasesForMany : Nat := 2

/-- More results than this are many. -/
def manyResults : Nat := 50

/-- Above this number of knowledge bases the tight threshold is the default. -/
def tightBases : Nat := 3

def looseThreshold : Float := 1.0

def tightThreshold : Float := 0.8

/-- How many chunks a split query may return beyond its share. -/
def overfetch : Nat := 5

/-- The share of one knowledge base in the wanted results, rounded up, and some more. The share is a
quotient rounded to the nearest binary number first. -/
def limitFor (bases count : Nat) : Except Failure Nat :=
  let share := Number.Quotient.of count bases
  if share.overflows then .error .quotientTooLarge
  else .ok (share.ceil + overfetch)

/-- The plan for a number of knowledge bases and of wanted results, both positive. -/
def plan (bases count : Nat) : Except Failure Strategy :=
  (limitFor bases count).map fun limit =>
    { useParallel :=
        parallelBases < bases || (parallelBasesForMany < bases && manyResults < count)
      distanceThreshold := if tightBases < bases then tightThreshold else looseThreshold
      parallelLimit := limit
      singleQueryOptimized := bases ≤ parallelBasesForMany }

/-- The plan for a number of knowledge bases and of wanted results. -/
def select (bases count : Int) : Except Failure Strategy :=
  if bases < 1 then .error (.unmet .someBase)
  else if count < 1 then .error (.unmet .positiveCount)
  else plan bases.toNat count.toNat

end Strategy

end HybridSearch
