import HybridSearch.Proofs.Filter.Compiled
import HybridSearch.Proofs.Retrieval.Results
import HybridSearch.Proofs.Store.Visibility

/-! No search finds what must not be found, whichever way it takes. -/

namespace HybridSearch

/-- A result tells of a chunk what the store holds of it. -/
structure SearchResult.TellsOf (result : SearchResult) (chunk : Chunk) : Prop where
  id : result.id = chunk.id
  content : result.content = chunk.content
  document : result.document = chunk.document
  position : result.position = chunk.position
  tags : result.tags = chunk.tags
  base : result.base = chunk.base

theorem Chunk.result_tellsOf (chunk : Chunk) (distance : Float) :
    (chunk.result distance).TellsOf chunk :=
  ⟨rfl, rfl, rfl, rfl, rfl, rfl⟩

/-- A result shows a chunk that can be seen in some knowledge bases, as it is. -/
def SearchResult.Shows (result : SearchResult) (store : Store) (bases : List String)
    (chunk : Chunk) : Prop :=
  store.Visible bases chunk ∧ result.TellsOf chunk

theorem Tags.satisfy_nil (tags : Tags) (dayOf? : Timestamp → Option Date) :
    tags.Satisfy dayOf? [] := by
  intro slot asked
  rcases asked with ⟨filter, ⟨raw, member, _⟩, _⟩
  cases member

namespace Store

variable {store : Store} {outage : Outage} {strategy : Strategy} {count : Nat}
  {results : List SearchResult} {result : SearchResult}

theorem Visible.mono {bases wider : List String} {chunk : Chunk}
    (visible : store.Visible bases chunk) (within : bases ⊆ wider) : store.Visible wider chunk :=
  { visible with requested := within visible.requested }

theorem chunksIn_mono (scope : Scope) {base : String} (requested : base ∈ scope.bases)
    {chunk : Chunk} (member : chunk ∈ store.chunksIn ⟨[base], scope.clauses⟩) :
    chunk ∈ store.chunksIn scope := by
  rcases (mem_chunksIn_iff ..).mp member with ⟨visible, holds⟩
  exact (mem_chunksIn_iff ..).mpr ⟨visible.mono (by simpa using requested), holds⟩

/-! ## The three searches -/

theorem exists_chunk_of_searchTagged {scope : Scope}
    (succeeded : (store.searchTagged outage strategy scope count).outcome = .ok results)
    (member : result ∈ results) :
    ∃ chunk ∈ store.chunksIn scope, result = chunk.result result.distance := by
  rw [(store.searchTagged_comesTo strategy scope count).only outage results succeeded,
    resultsTagged] at member
  split at member
  · rcases List.mem_flatMap.mp (List.mem_of_mem_take member) with ⟨base, requested, inBase⟩
    rcases exists_chunk_of_tagged inBase with ⟨chunk, among, rfl⟩
    exact ⟨chunk, chunksIn_mono scope requested among, rfl⟩
  · rcases exists_chunk_of_tagged member with ⟨chunk, among, rfl⟩
    exact ⟨chunk, among, rfl⟩

theorem exists_chunk_of_searchNearest {bases : List String} {nearness : Nearness}
    (succeeded :
      (store.searchNearest outage strategy bases nearness count).outcome = .ok results)
    (member : result ∈ results) :
    ∃ chunk ∈ store.chunksIn ⟨bases, []⟩, result = chunk.result result.distance := by
  rw [(store.searchNearest_comesTo strategy bases nearness count).only outage results succeeded,
    resultsNearest] at member
  split at member
  · have merged := (mem_sortBy ..).mp (List.mem_of_mem_take member)
    rcases List.mem_flatMap.mp merged with ⟨base, requested, inBase⟩
    rcases exists_chunk_of_nearest inBase with ⟨chunk, among, distance, _, rfl⟩
    exact ⟨chunk, chunksIn_mono ⟨bases, []⟩ requested among, rfl⟩
  · rcases exists_chunk_of_nearest member with ⟨chunk, among, distance, _, rfl⟩
    exact ⟨chunk, among, rfl⟩

theorem exists_chunk_of_searchHybrid (keyed : store.Keyed) {scope : Scope} {nearness : Nearness}
    (succeeded :
      (store.searchHybrid outage strategy scope nearness count).outcome = .ok results)
    (member : result ∈ results) :
    ∃ chunk ∈ store.chunksIn scope, result = chunk.result result.distance := by
  rw [(store.searchHybrid_comesTo strategy scope nearness count).only outage results succeeded]
    at member
  rcases exists_chunk_of_nearestAmong keyed member with ⟨chunk, among, distance, _, rfl⟩
  exact ⟨chunk, among, rfl⟩

/-! ## All searches -/

variable {request : SearchRequest}

theorem shows_of_chunksIn {scope : Scope}
    (found : ∃ chunk ∈ store.chunksIn scope, result = chunk.result result.distance) :
    ∃ chunk, result.Shows store scope.bases chunk ∧
      ∀ clause ∈ scope.clauses, clause.holds store.dayOf? chunk.tags = some true := by
  rcases found with ⟨chunk, among, shown⟩
  rcases (mem_chunksIn_iff ..).mp among with ⟨visible, holds⟩
  have tells : result.TellsOf chunk := by
    rw [shown]
    exact chunk.result_tellsOf result.distance
  exact ⟨chunk, ⟨visible, tells⟩, holds⟩

theorem shows_of_scope {scope : Scope} (narrowed : request.scope = .ok scope)
    (found : ∃ chunk ∈ store.chunksIn scope, result = chunk.result result.distance) :
    ∃ chunk, result.Shows store request.bases chunk ∧
      chunk.tags.Satisfy store.dayOf? request.filters := by
  rcases SearchRequest.scope_eq_ok_iff.mp narrowed with ⟨compiled, returned, rfl⟩
  rcases shows_of_chunksIn found with ⟨chunk, shown, holds⟩
  exact ⟨chunk, shown, (Compiled.ofFilters_holds_iff returned store.dayOf? chunk.tags).mp holds⟩

theorem shows_of_searchIn (keyed : store.Keyed) {mode : Mode}
    (succeeded : (store.searchIn outage mode request).outcome = .ok results)
    (member : result ∈ results) :
    ∃ chunk, result.Shows store request.bases chunk ∧
      (mode ≠ .vector → chunk.tags.Satisfy store.dayOf? request.filters) := by
  cases mode with
  | tag =>
      rcases searchIn_tag_eq_ok_iff.mp succeeded with ⟨_, strategy, scope, _, narrowed, ran⟩
      rcases shows_of_scope narrowed (exists_chunk_of_searchTagged ran member) with
        ⟨chunk, shown, satisfied⟩
      exact ⟨chunk, shown, fun _ => satisfied⟩
  | vector =>
      rcases searchIn_vector_eq_ok_iff.mp succeeded with ⟨nearness, strategy, _, _, ran⟩
      rcases shows_of_chunksIn (exists_chunk_of_searchNearest ran member) with ⟨chunk, shown, _⟩
      exact ⟨chunk, shown, fun different => absurd rfl different⟩
  | hybrid =>
      rcases searchIn_hybrid_eq_ok_iff.mp succeeded with
        ⟨_, nearness, strategy, scope, _, _, narrowed, ran⟩
      rcases shows_of_scope narrowed (exists_chunk_of_searchHybrid keyed ran member) with
        ⟨chunk, shown, satisfied⟩
      exact ⟨chunk, shown, fun _ => satisfied⟩

theorem shows_of_search (keyed : store.Keyed)
    (succeeded : (store.search outage request).outcome = .ok results)
    (member : result ∈ results) :
    ∃ chunk, result.Shows store request.bases chunk ∧
      chunk.tags.Satisfy store.dayOf? request.filters := by
  rcases search_eq_ok_iff.mp succeeded with ⟨mode, completed, called, given, ran⟩
  have same := eq_of_withThreshold given
  rcases shows_of_searchIn keyed ran member with ⟨chunk, shown, satisfied⟩
  rw [same] at shown satisfied
  refine ⟨chunk, shown, ?_⟩
  by_cases vector : mode = .vector
  · rw [SearchRequest.filters_eq_nil_of_mode? (vector ▸ called)]
    exact chunk.tags.satisfy_nil store.dayOf?
  · exact satisfied vector

/-- Whatever the store holds, a search in any mode shows only chunks that can be seen in the
knowledge bases of the request, as they are, and only chunks that satisfy its filters where the mode
uses them. -/
theorem results_show_visible (store : Store) (keyed : store.Keyed) (outage : Outage)
    (request : SearchRequest) :
    (∀ mode results, (store.searchIn outage mode request).outcome = .ok results →
      ∀ result ∈ results, ∃ chunk, result.Shows store request.bases chunk ∧
        (mode ≠ .vector → chunk.tags.Satisfy store.dayOf? request.filters)) ∧
    ∀ results, (store.search outage request).outcome = .ok results →
      ∀ result ∈ results, ∃ chunk, result.Shows store request.bases chunk ∧
        chunk.tags.Satisfy store.dayOf? request.filters := by
  constructor
  · intro mode results succeeded result member
    exact shows_of_searchIn keyed succeeded member
  · intro results succeeded result member
    exact shows_of_search keyed succeeded member

/-- A store in which three of four chunks must not be found: one is disabled, one belongs to a
document that is deleted, and one to another knowledge base. -/
def guardedStore : Store :=
  let chunk (id base document : String) (enabled : Bool) : Chunk :=
    { id, base, document, position := 0, content := "text", tags := .flagged, vector := [], enabled }
  { documents :=
      [{ id := "kept", base := "a", filename := "kept.pdf" },
        { id := "gone", base := "a", filename := "gone.pdf", deleted := true },
        { id := "other", base := "b", filename := "other.pdf" }]
    chunks :=
      [chunk "1" "a" "kept" false, chunk "2" "a" "gone" true, chunk "3" "b" "other" true,
        chunk "4" "a" "kept" true] }

/-- A request for all chunks of one knowledge base with a truth value set. -/
def guardedRequest : SearchRequest where
  bases := ["a"]
  count := 10
  filters := [⟨"boolean3", "boolean", "eq", .bool true, .null⟩]
  vector? := none
  threshold? := none

/-- The only result of the request. -/
def guardedResult : SearchResult where
  id := "4"
  content := "text"
  document := "kept"
  position := 0
  tags := .flagged
  distance := 0.0
  base := "a"

theorem guardedResult_shown : guardedStore.Keyed ∧
    ∃ chunk, guardedResult.Shows guardedStore guardedRequest.bases chunk ∧
      chunk.tags.Satisfy guardedStore.dayOf? guardedRequest.filters :=
  have keyed : guardedStore.Keyed := by unfold Keyed; decide +kernel
  have found : (guardedStore.search .none guardedRequest).outcome = .ok [guardedResult] := by
    decide +kernel
  ⟨keyed, (results_show_visible guardedStore keyed .none guardedRequest).2 _ found guardedResult
    (List.mem_singleton.mpr rfl)⟩

end Store

end HybridSearch
