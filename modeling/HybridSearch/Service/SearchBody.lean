import HybridSearch.Request
import HybridSearch.Rerank.Options

/-! The body of a search over the wire: what is searched for, and how it is to be reranked. -/

namespace HybridSearch.Service

/-- A search over the wire. The vector may still have the wrong size. -/
structure SearchBody where
  bases : List String
  query? : Option String
  vector? : Option (List Float)
  filters : List RawFilter
  count : Nat
  threshold? : Option Float
  rerank? : Option Rerank.Options

namespace SearchBody

/-- A single knowledge base may stand for a list of one. -/
def checkBases (input : Json) : Checked (List String) :=
  Checked.nonemptyList Checked.string <|
    match input with
    | .string base => .array [.string base]
    | input => input

def check (input : Json) : Checked SearchBody :=
  Checked.record .body "KnowledgeSearchRequest" input fun members =>
    SearchBody.mk
      <$> Checked.field members ["knowledge_base_ids", "knowledgeBaseIds"] checkBases
      <*> Checked.fieldOr members ["query"] none (Checked.optional Checked.string)
      <*> Checked.fieldOr members ["query_vector", "queryVector"] none
            (Checked.optional (Checked.list Checked.number))
      <*> Checked.fieldOr members ["filters"] [] (Checked.list (RawFilter.check .body))
      <*> Checked.fieldOr members ["top_k", "topK"] defaultCount SearchRequest.checkCount
      <*> Checked.fieldOr members ["distance_threshold", "distanceThreshold"] none
            (Checked.optional Checked.number)
      <*> Checked.fieldOr members ["rerank"] none
            (Checked.optional (Rerank.Options.check .body))

/-- Whether a vector is given; an empty one is none. -/
def hasVector (body : SearchBody) : Bool :=
  match body.vector? with
  | some vector => !vector.isEmpty
  | none => false

structure WrongSize where
  size : Nat
deriving Repr, DecidableEq

def WrongSize.message (wrong : WrongSize) : String :=
  "1 validation error for SearchRequest\nquery_vector\n  Value error, " ++
    SearchRequest.sizeMessage wrong.size

def request? (body : SearchBody) : Except WrongSize SearchRequest :=
  let request : SearchRequest :=
    ⟨body.bases.eraseDups, body.count, body.filters, body.vector?, body.threshold?⟩
  match body.vector? with
  | some vector => if vector.length = dimension then .ok request else .error ⟨vector.length⟩
  | none => .ok request

def queryText? (body : SearchBody) : Option String :=
  body.query?.filter (· ≠ "")

end SearchBody

end HybridSearch.Service
