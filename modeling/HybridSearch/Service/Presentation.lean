import HybridSearch.Json
import HybridSearch.Issue
import HybridSearch.Store
import HybridSearch.Strategy

/-! Values as they are sent to clients. -/

namespace HybridSearch

def Strategy.json (strategy : Strategy) : Json :=
  .object
    [("use_parallel", .bool strategy.useParallel),
      ("distance_threshold", .float strategy.distanceThreshold),
      ("parallel_limit", .integer strategy.parallelLimit),
      ("single_query_optimized", .bool strategy.singleQueryOptimized)]

def TagValue.json : TagValue → Json
  | text value => .string value
  | number value => .float value
  | date value => .string (String.ofList value.text)
  | boolean value => .bool value

/-- The values of all slots as they are sent; an empty slot is sent too. -/
def Tags.json (tags : Tags) : Json :=
  .object (Slot.all.map fun slot => (slot.name, ((tags.get? slot).map TagValue.json).getD .null))

def PathStep.json : PathStep → Json
  | key name => .string name
  | index position => .integer position

def Issue.json (issue : Issue) : Json :=
  .object
    [("type", .string issue.kind.code),
      ("loc", .array (issue.path.map PathStep.json)),
      ("msg", .string issue.kind.message)]

namespace Service

/-- How like a chunk is to the vector that was searched by; without a vector every chunk is. -/
def similarity (usedVector : Bool) (result : SearchResult) : Float :=
  if usedVector then 1.0 - result.distance else 1.0

structure Item where
  result : SearchResult
  documentName? : Option String
  similarity : Float
deriving Repr, DecidableEq

namespace Item

def json (item : Item) : Json :=
  .object
    [("id", .string item.result.id),
      ("document_id", .string item.result.document),
      ("document_name", (item.documentName?.map Json.string).getD .null),
      ("content", .string item.result.content),
      ("chunk_index", .integer item.result.position),
      ("knowledge_base_id", .string item.result.base),
      ("metadata", item.result.tags.json),
      ("similarity", .float item.similarity)]

end Item

structure SearchAnswer where
  items : List Item
  query? : Option String
  bases : List String
  count : Nat
  strategy : Strategy
deriving Repr, DecidableEq

namespace SearchAnswer

def json (answer : SearchAnswer) : Json :=
  .object
    [("success", .bool true),
      ("data", .object
        [("results", .array (answer.items.map Item.json)),
          ("query", (answer.query?.map Json.string).getD .null),
          ("knowledge_base_ids", .array (answer.bases.map Json.string)),
          ("top_k", .integer answer.count),
          ("total_results", .integer answer.items.length),
          ("strategy", answer.strategy.json)])]

end SearchAnswer

end Service

end HybridSearch
