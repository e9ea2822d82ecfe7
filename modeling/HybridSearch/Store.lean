import HybridSearch.Request
import HybridSearch.Tags

/-! The chunk store: knowledge bases, their documents, and the chunks that the documents are cut
into. A document that is deleted stays in the store but its chunks are not found any more. -/

namespace HybridSearch

/-- A collection of documents that a search can be bound to. -/
structure KnowledgeBase where
  id : String
  name : String
  description? : Option String := none
  embeddingModel : String := "text-embedding-3-small"
  embeddingDimension : Nat := dimension
  deleted : Bool := false
deriving Repr, DecidableEq

structure Document where
  id : String
  base : String
  filename : String
  enabled : Bool := true
  chunkCount : Nat := 0
  deleted : Bool := false
deriving Repr, DecidableEq

/-- A piece of a document with its tags and its vector. -/
structure Chunk where
  id : String
  base : String
  document : String
  position : Int
  content : String
  tags : Tags
  vector : List Float
  enabled : Bool := true
deriving Repr, DecidableEq

/-- The store. Rows stand in the order in which they were inserted. -/
structure Store where
  bases : List KnowledgeBase := []
  documents : List Document := []
  chunks : List Chunk := []
  /-- The day on which the store takes a timestamp to lie, if it finds one. -/
  dayOf? : Timestamp → Option Date := Timestamp.day? false

namespace Store

/-- Whether a document is there and not deleted. -/
def hasLiveDocument (store : Store) (id : String) : Bool :=
  store.documents.any fun document => document.id = id && !document.deleted

/-- Whether a chunk can be found: it is enabled, and its document is there and not deleted. -/
def isSearchable (store : Store) (chunk : Chunk) : Bool :=
  chunk.enabled && store.hasLiveDocument chunk.document

/-- The filenames of the documents among some identifiers that are not deleted. -/
def documentNames (store : Store) (ids : List String) : List (String × String) :=
  (store.documents.filter fun document => document.id ∈ ids && !document.deleted).map
    fun document => (document.id, document.filename)

def changeBase (store : Store) (id : String) (change : KnowledgeBase → KnowledgeBase) : Store :=
  { store with bases := store.bases.map fun base => if base.id = id then change base else base }

def changeDocument (store : Store) (id : String) (change : Document → Document) : Store :=
  { store with
    documents := store.documents.map fun document =>
      if document.id = id then change document else document }

def changeChunk (store : Store) (id : String) (change : Chunk → Chunk) : Store :=
  { store with
    chunks := store.chunks.map fun chunk => if chunk.id = id then change chunk else chunk }

end Store

/-- A chunk that was found, with its distance from the vector that was searched by. Without such a
vector the distance is zero. -/
structure SearchResult where
  id : String
  content : String
  document : String
  position : Int
  tags : Tags
  distance : Float
  base : String
deriving Repr, DecidableEq

namespace Chunk

def result (chunk : Chunk) (distance : Float) : SearchResult where
  id := chunk.id
  content := chunk.content
  document := chunk.document
  position := chunk.position
  tags := chunk.tags
  distance
  base := chunk.base

end Chunk

end HybridSearch
