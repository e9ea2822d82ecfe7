/-! The ways in which a search fails. -/

namespace HybridSearch

/-- What a caller must give for a search. -/
inductive Precondition where
  | someBase
  | positiveCount
  | filtersOrVector
  /-- Filters, for the mode that is named. -/
  | filters (mode : String)
  /-- A vector with a threshold, for the mode that is named. -/
  | vector (mode : String)
deriving Repr, DecidableEq

inductive Failure where
  | unmet (precondition : Precondition)
  /-- An integer has no binary number near it. -/
  | integerTooLarge
  /-- A quotient lies beyond the largest binary number. -/
  | quotientTooLarge
  /-- A session with the store was not opened. -/
  | session (number : Nat)
  /-- A distance cannot be taken, because a vector has a component that is not finite. -/
  | unmeasurable
deriving Repr, DecidableEq

def Precondition.message : Precondition → String
  | someBase => "At least one knowledge base is required"
  | positiveCount => "top_k must be at least 1"
  | filtersOrVector => "Either tag filters or a query vector is required"
  | filters mode => "Tag filters are required for " ++ mode ++ " search"
  | vector mode => "Query vector and distance threshold are required for " ++ mode ++ " search"

def Failure.message : Failure → String
  | unmet precondition => precondition.message
  | integerTooLarge => "int too large to convert to float"
  | quotientTooLarge => "integer division result too large for a float"
  | session number => "session " ++ toString number ++ " failed"
  | unmeasurable => "user-defined function raised exception"

end HybridSearch
