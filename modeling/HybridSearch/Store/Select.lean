import HybridSearch.Predicate.Truth
import HybridSearch.Selection
import HybridSearch.Sorting
import HybridSearch.Store
import HybridSearch.Store.Distance

/-! What a query finds in the store. -/

namespace HybridSearch.Store

def inScope (store : Store) (scope : Scope) (chunk : Chunk) : Bool :=
  chunk.base ∈ scope.bases &&
    scope.clauses.all fun clause => (clause.holds store.dayOf? chunk.tags).isTrue

/-- Chunks by knowledge base; those of one knowledge base keep their order. -/
def byBase (chunks : List Chunk) : List Chunk :=
  sortBy (fun left right => left.base ≤ right.base) chunks

def byId (chunks : List Chunk) : List Chunk :=
  sortBy (fun left right => left.id ≤ right.id) chunks

def nearDistance? (nearness : Nearness) (chunk : Chunk) : Option Float :=
  (cosineDistance? chunk.vector nearness.vector).filter fun distance =>
    distance < nearness.threshold

def near (nearness : Nearness) (chunks : List Chunk) : List (Chunk × Float) :=
  chunks.filterMap fun chunk => (nearDistance? nearness chunk).map fun distance => (chunk, distance)

/-- The nearest chunks first; those at one distance keep their order. -/
def nearestFirst (found : List (Chunk × Float)) : List (Chunk × Float) :=
  sortBy (fun left right => left.2 ≤ right.2) found

/-- The chunks of a scope that can be found. -/
def chunksIn (store : Store) (scope : Scope) : List Chunk :=
  store.chunks.filter fun chunk => store.isSearchable chunk && store.inScope scope chunk

/-- The identifiers of the chunks of a scope that can be found. -/
def candidates (store : Store) (scope : Scope) : List String :=
  (store.chunksIn scope).map Chunk.id

/-- The chunks that are ranked among the candidates of a scope. A candidate is known by its
identifier. -/
def among (store : Store) (scope : Scope) : List Chunk :=
  store.chunks.filter fun chunk => store.isSearchable chunk && chunk.id ∈ store.candidates scope

/-- Whether the distance of a chunk can be taken: the store fails where a vector has a component that
is not finite. -/
def isMeasurable (nearness : Nearness) (chunk : Chunk) : Bool :=
  isFiniteVector chunk.vector && isFiniteVector nearness.vector

/-- Whether a query can be answered: all distances that it takes can be taken. -/
def canAnswer (store : Store) : Selection → Bool
  | .tagged _ _ | .candidates _ => true
  | .nearest bases nearness _ => (store.chunksIn ⟨bases, []⟩).all (isMeasurable nearness)
  | .nearestAmong scope nearness _ => (store.among scope).all (isMeasurable nearness)

/-- The results of a query that can be answered. A query for identifiers has none. -/
def select (store : Store) : Selection → List SearchResult
  | .tagged scope limit =>
      ((byBase (store.chunksIn scope)).take limit).map fun chunk => chunk.result 0.0
  | .nearest bases nearness limit =>
      ((nearestFirst (near nearness (byBase (store.chunksIn ⟨bases, []⟩)))).take limit).map
        fun found => found.1.result found.2
  | .candidates _ => []
  | .nearestAmong scope nearness limit =>
      ((nearestFirst (near nearness (byId (store.among scope)))).take limit).map
        fun found => found.1.result found.2

end HybridSearch.Store
