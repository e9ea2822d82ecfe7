import HybridSearch.Filter.Raw

/-! Search requests: the knowledge bases to look in, how many results are wanted, and the filters
and the vector to look by. -/

namespace HybridSearch

/-- The number of components of every vector. -/
def dimension : Nat := 1536

def defaultCount : Nat := 10

def greatestCount : Nat := 100

/-- A search request that has passed its checks. -/
structure SearchRequest where
  /-- The knowledge bases, none of them twice. -/
  bases : List String
  count : Nat
  filters : List RawFilter
  vector? : Option (List Float)
  threshold? : Option Float

namespace SearchRequest

def checkCount (input : Json) : Checked Nat :=
  (Checked.between 1 greatestCount input).map Int.toNat

def sizeMessage (size : Nat) : String :=
  "query_vector must have " ++ toString dimension ++ " dimensions, got " ++ toString size

/-- A vector of the right size, or none. -/
def checkVector (input : Json) : Checked (Option (List Float)) :=
  (Checked.optional (Checked.list Checked.number) input).andThen fun vector? =>
    match vector? with
    | none => .accepted none
    | some vector =>
        if vector.length = dimension then .accepted (some vector)
        else Checked.reject (.refused (sizeMessage vector.length)) input

def check (input : Json) : Checked SearchRequest :=
  Checked.record .plain "SearchRequest" input fun members =>
    SearchRequest.mk
      <$> (Checked.field members ["knowledgeBaseIds", "knowledge_base_ids"]
            (Checked.nonemptyList Checked.string)).map List.eraseDups
      <*> Checked.fieldOr members ["topK", "top_k"] defaultCount checkCount
      <*> Checked.fieldOr members ["structuredFilters", "structured_filters"] []
            (Checked.list (RawFilter.check .plain))
      <*> Checked.fieldOr members ["queryVector", "query_vector"] none checkVector
      <*> Checked.fieldOr members ["distanceThreshold", "distance_threshold"] none
            (Checked.optional Checked.number)

def hasFilters (request : SearchRequest) : Bool :=
  !request.filters.isEmpty

/-- Whether a vector is given; an empty one is none. -/
def hasVector (request : SearchRequest) : Bool :=
  match request.vector? with
  | some vector => !vector.isEmpty
  | none => false

end SearchRequest

end HybridSearch
