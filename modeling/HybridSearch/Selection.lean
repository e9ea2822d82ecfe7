import HybridSearch.Predicate

/-! The queries that a search asks of the store. All of them look only at chunks that are enabled
and whose document is not deleted. -/

namespace HybridSearch

/-- The chunks of some knowledge bases that satisfy some clauses. -/
structure Scope where
  bases : List String
  clauses : List Clause
deriving Repr, DecidableEq

/-- The chunks nearer to a vector than a threshold. -/
structure Nearness where
  vector : List Float
  threshold : Float
deriving Repr, DecidableEq

inductive Selection where
  /-- The first chunks of a scope, in the order of the store. -/
  | tagged (scope : Scope) (limit : Nat)
  /-- The chunks of some knowledge bases that are near to a vector, the nearest first. -/
  | nearest (bases : List String) (nearness : Nearness) (limit : Nat)
  /-- The identifiers of all chunks of a scope. -/
  | candidates (scope : Scope)
  /-- The chunks of a scope that are near to a vector, the nearest first. -/
  | nearestAmong (scope : Scope) (nearness : Nearness) (limit : Nat)
deriving Repr, DecidableEq

end HybridSearch
