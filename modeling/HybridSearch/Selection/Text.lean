import HybridSearch.Json
import HybridSearch.Predicate.Text
import HybridSearch.Selection

/-! The text of queries. -/

namespace HybridSearch

open HybridSearch.Query

namespace Scope

/-- The condition that a chunk belongs to one of some knowledge bases. Of no knowledge base at all
it says that a chunk belongs to an unknown one, and then that nothing is found. -/
def basesText (bases : List String) : List Char :=
  let base := "embeddings.knowledge_base_id".toList
  match bases with
  | [] => binary base "IN" "(NULL) AND (1 != 1)".toList
  | [single] => binary base "=" (textLiteral single.toList)
  | several =>
      binary base "IN"
        ('(' :: Clause.joined ", " (several.map fun id => textLiteral id.toList) ++ [')'])

def conditions (scope : Scope) : List (List Char) :=
  basesText scope.bases :: scope.clauses.map Clause.memberText

end Scope

namespace Query

/-- The components of a vector without the zeros at its end, as far as they have no minus sign. The
first one always stays. -/
def significant (vector : List Float) : List Float :=
  let isPlainZero (component : Float) : Bool := component == 0.0 && !Number.isNegative component
  match vector with
  | [] => []
  | first :: rest => first :: (rest.reverse.dropWhile isPlainZero).reverse

def distanceText (vector : List Float) : List Char :=
  "(embeddings.embedding <=> ".toList ++
    textLiteral ('[' :: Clause.joined "," ((significant vector).map numberLiteral) ++ [']']) ++
    [')']

def resultColumns (distance : List Char) : List Char :=
  let plain (name : String) : List Char := "embeddings.".toList ++ name.toList
  Clause.joined ", " <|
    [plain "id", plain "content", plain "document_id", plain "chunk_index"] ++
      Slot.all.map column ++
      [distance ++ " AS distance".toList, plain "knowledge_base_id"]

/-- A query for some columns of the chunks that meet some conditions. -/
def searchable (columns : List Char) (conditions : List (List Char)) : List Char :=
  "SELECT ".toList ++ columns ++
    " \nFROM embeddings JOIN documents ON embeddings.document_id = documents.id \nWHERE ".toList ++
    Clause.joined " AND "
      ("embeddings.enabled IS true".toList :: "documents.deleted_at IS NULL".toList :: conditions)

/-- The end of a query that returns at most so many rows, or all of them. -/
def limitText : Option Int → List Char
  | some limit => " \n LIMIT ".toList ++ (toString limit).toList
  | none => []

def taggedText (scope : Scope) (limit? : Option Int) : List Char :=
  searchable (resultColumns "0.0".toList) scope.conditions ++ limitText limit?

/-- The query for the chunks that meet a condition and are nearer to a vector than a threshold, the
nearest first. -/
def rankedText (condition : List Char) (vector : List Float) (threshold : List Char)
    (limit? : Option Int) : List Char :=
  let distance := distanceText vector
  searchable (resultColumns distance) [condition, binary distance "<" threshold] ++
    " ORDER BY ".toList ++ distance ++ limitText limit?

/-- The text of a threshold. A distance is compared with numbers and texts only. -/
def thresholdText? : Json → Option (List Char)
  | .integer value => some (toString value).toList
  | .float value => some (numberLiteral value)
  | .string value => some (textLiteral value.toList)
  | _ => none

/-- What is said of a threshold that is neither a number nor a text. -/
def incomparableMessage : String :=
  "Only '=', '!=', 'is_()', 'is_not()', 'is_distinct_from()', 'is_not_distinct_from()' " ++
    "operators can be used with None/True/False"

/-- The query for the chunks of some knowledge bases that are near to a vector. -/
def nearestText (bases : List String) : List Float → List Char → Option Int → List Char :=
  rankedText (Scope.basesText bases)

def candidatesText (scope : Scope) : List Char :=
  searchable "embeddings.id".toList scope.conditions

/-- The query for the chunks of a scope that are near to a vector. -/
def nearestAmongText (scope : Scope) : List Float → List Char → Option Int → List Char :=
  rankedText (binary "embeddings.id".toList "IN" ('(' :: candidatesText scope ++ [')']))

end Query

def Selection.text : Selection → List Char
  | tagged scope limit => taggedText scope (some limit)
  | nearest bases nearness limit =>
      nearestText bases nearness.vector (numberLiteral nearness.threshold) (some limit)
  | candidates scope => candidatesText scope
  | nearestAmong scope nearness limit =>
      nearestAmongText scope nearness.vector (numberLiteral nearness.threshold) (some limit)

end HybridSearch
