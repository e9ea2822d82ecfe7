import HybridSearch.Json.Reader
import HybridSearch.Sorting

/-! The answer of the scoring service: which of its items count, and which of the documents they
name, best first. -/

namespace HybridSearch.Rerank

structure Scored where
  /-- The number of the document, if the item names one. -/
  index? : Option Int
  score : Float
deriving Repr, DecidableEq

namespace Scored

/-- The score of an item: a finite number. An integer beyond the largest number has none, and the
answer as a whole is then of no use. -/
def scoreOf? : Option Json → Option (Option Float)
  | some (.integer value) => (Number.ofInteger? value).map some
  | some (.float value) => some ((some value).filter Float.isFinite)
  | _ => some none

/-- The number of a document; a truth value is none. -/
def indexOf? : Option Json → Option Int
  | some (.integer value) => some value
  | _ => none

/-- An item of an answer. Nothing is left of an item without a score, and the outer nothing stands
for a score that cannot be represented. -/
def ofItem? (item : Json) : Option (Option Scored) :=
  (scoreOf? (item.member? "relevance_score")).map fun score? =>
    score?.map fun score => ⟨indexOf? (item.member? "index"), score⟩

/-- The position of the document that an item names, among `size` documents. -/
def position? (size : Nat) (scored : Scored) : Option Nat :=
  match scored.index? with
  | some index => if 0 ≤ index ∧ index < size then some index.toNat else none
  | none => none

end Scored

inductive Reply where
  /-- The items with a score, in the order of the answer. -/
  | scores (scored : List Scored)
  /-- The answer has no list of results. -/
  | noData
  /-- The answer cannot be read. -/
  | unreadable
deriving Repr, DecidableEq

namespace Reply

def ofJson (answer : Json) : Reply :=
  match answer.member? "results" with
  | some (.array items) =>
      match items.mapM Scored.ofItem? with
      | some scored => scores (scored.filterMap id)
      | none => unreadable
  | _ => noData

def ofBytes (bytes : List UInt8) : Reply :=
  match Json.readBytes bytes with
  | .ok answer => ofJson answer
  | .error _ => unreadable

end Reply

/-- Items with the best score first; items with equal scores keep their order. -/
def bestFirst (scored : List Scored) : List Scored :=
  sortBy (fun left right => right.score ≤ left.score) scored

/-- The documents that items name, each where it is named first. Items that name no document are
passed over. -/
def named (size : Nat) (ranked : List Scored) : List Nat :=
  (ranked.filterMap (Scored.position? size)).eraseDups

end HybridSearch.Rerank
