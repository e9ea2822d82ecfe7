import HybridSearch.Filter
import HybridSearch.Pattern

/-! Predicates on the tags of a chunk, as they stand in a query. -/

namespace HybridSearch

/-- A predicate on one slot. Texts are compared in the lower case of the store. -/
inductive Predicate where
  | textEqual (position : Fin 7) (negated : Bool) (value : String)
  | textLike (position : Fin 7) (negated : Bool) (pattern : Pattern)
  | number (position : Fin 5) (range : Range Float)
  | date (position : Fin 2) (range : Range Date)
  | boolean (position : Fin 3) (negated : Bool) (value : Bool)
deriving Repr, DecidableEq

namespace Predicate

def slot : Predicate → Slot
  | textEqual position _ _ => .text position
  | textLike position _ _ => .text position
  | number position _ => .number position
  | date position _ => .date position
  | boolean position _ _ => .boolean position

end Predicate

/-- The predicates on one slot, of which one must hold. There is at least one. -/
structure Clause where
  first : Predicate
  others : List Predicate
deriving Repr, DecidableEq

namespace Clause

def members (clause : Clause) : List Predicate :=
  clause.first :: clause.others

def ofList? : List Predicate → Option Clause
  | [] => none
  | first :: others => some ⟨first, others⟩

end Clause

end HybridSearch
