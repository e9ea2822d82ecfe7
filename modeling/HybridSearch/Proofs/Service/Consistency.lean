import HybridSearch.Proofs.Rerank.Ranking
import HybridSearch.Proofs.Retrieval.Shape
import HybridSearch.Proofs.Service.Agreement
import HybridSearch.Proofs.Service.Search

/-! Answers with results are consistent. What is sent is read off the answer again, and it is what the
search came to: chunks of the store, each with the name of its document. -/

namespace HybridSearch

/-- What stands at the end of a path of keys. -/
def Json.at? (path : List String) (value : Json) : Option Json :=
  path.foldlM (fun value key => value.member? key) value

/-- The value of a slot as it is sent. -/
def Tags.sent (tags : Tags) (slot : Slot) : Json :=
  ((tags.get? slot).map TagValue.json).getD .null

namespace Service

/-- An item shows a result, with the name of its document and how like it is to the vector. -/
structure Presents (store : Store) (body : SearchBody) (item : Json) (result : SearchResult) :
    Prop where
  id : item.at? ["id"] = some (.string result.id)
  document : item.at? ["document_id"] = some (.string result.document)
  documentName : ∃ filename, store.Names result.document filename ∧
    item.at? ["document_name"] = some (.string filename)
  content : item.at? ["content"] = some (.string result.content)
  position : item.at? ["chunk_index"] = some (.integer result.position)
  base : item.at? ["knowledge_base_id"] = some (.string result.base)
  metadata : ∃ members, item.at? ["metadata"] = some (.object members) ∧
    members.map Prod.fst = Slot.all.map Slot.name ∧
    ∀ slot, members.lookup slot.name = some (result.tags.sent slot)
  similarity : item.at? ["similarity"] = some (.float
    (match body.vector? with
      | some _ => 1.0 - result.distance
      | none => 1.0))

/-- How an answer came about: a plan was made for the knowledge bases of the body, a search was run by
it, and what it found is in the store and can be seen. -/
structure Searched (surroundings : Surroundings) (body : SearchBody) (strategy : Strategy)
    (results : List SearchResult) : Prop where
  planned : Strategy.select body.bases.eraseDups.length body.count = .ok strategy
  ran : ∃ request mode, body.request? = .ok request ∧
    RunsBy surroundings.store request strategy mode ∧
    (surroundings.store.search surroundings.outage request).outcome = .ok results ∧
    ∀ result ∈ results, ∃ chunk, surroundings.store.Visible body.bases chunk ∧
      result.FoundIn surroundings.store request chunk

/-- An answer shows some of the results of a search, none of them twice, and says by which plan and in
which knowledge bases they were searched. -/
structure Consistent (store : Store) (body : SearchBody) (strategy : Strategy)
    (results shown : List SearchResult) (answer : Json) : Prop where
  found : shown ⊆ results
  distinct : (shown.map SearchResult.id).Nodup
  length_le : shown.length ≤ body.count
  items : ∃ items, answer.at? ["data", "results"] = some (.array items) ∧
    List.Forall₂ (Presents store body) items shown ∧
    answer.at? ["data", "total_results"] = some (.integer items.length)
  bases : answer.at? ["data", "knowledge_base_ids"] =
    some (.array (body.bases.eraseDups.map .string))
  count : answer.at? ["data", "top_k"] = some (.integer body.count)
  strategy : answer.at? ["data", "strategy"] = some strategy.json

/-! ## Items -/

theorem lookup_slot {α : Type} (value : Slot → α) (slot : Slot) :
    (Slot.all.map fun slot => (slot.name, value slot)).lookup slot.name = some (value slot) := by
  have names : (Slot.all.map Slot.name).Nodup := by decide +kernel
  have distinct : ((Slot.all.map fun slot => (slot.name, value slot)).map Prod.fst).Nodup := by
    rw [List.map_map]
    exact names
  exact (Store.lookup_eq_some_iff_mem distinct).mpr (List.mem_map_of_mem slot.mem_all)

section Items

variable {store : Store} {body : SearchBody} {request : SearchRequest} {results : List SearchResult}

theorem similarity_eq (requested : body.request? = .ok request) (result : SearchResult) :
    similarity body.hasVector result =
      match body.vector? with
      | some _ => 1.0 - result.distance
      | none => 1.0 := by
  have sized := (SearchBody.request?_eq_ok_iff.mp requested).1
  rw [similarity, SearchBody.hasVector]
  cases given : body.vector? with
  | none => rfl
  | some vector =>
      cases vector with
      | nil => cases sized [] given
      | cons first rest => rfl

theorem presents_item (requested : body.request? = .ok request) {result : SearchResult}
    {filename : String} (named : store.Names result.document filename) :
    Presents store body
      (Item.json ⟨result, some filename, similarity body.hasVector result⟩) result where
  id := rfl
  document := rfl
  documentName := ⟨filename, named, rfl⟩
  content := rfl
  position := rfl
  base := rfl
  metadata := by
    refine ⟨Slot.all.map fun slot => (slot.name, result.tags.sent slot), rfl, ?_, ?_⟩
    · rw [List.map_map]
      rfl
    · exact lookup_slot result.tags.sent
  similarity := by
    rw [← similarity_eq requested]
    rfl

theorem presents_items (keyed : store.KeyedThroughout) (requested : body.request? = .ok request)
    (shown : ∀ result ∈ results, ∃ chunk, result.Shows store body.bases chunk) :
    List.Forall₂ (Presents store body)
      ((items store body.hasVector results).map Item.json) results := by
  rw [items, List.map_map, List.forall₂_map_left_iff, List.forall₂_same]
  intro result member
  rcases shown result member with ⟨chunk, visible, tells⟩
  rcases visible.live with ⟨document, stored, ofChunk, live⟩
  have named : store.Names result.document document.filename :=
    ⟨document, stored, ofChunk.trans tells.document.symm, rfl, live⟩
  have found : (store.documentNames (results.map SearchResult.document)).lookup result.document =
      some document.filename :=
    keyed.lookup_eq_some_iff.mpr ⟨List.mem_map_of_mem member, named⟩
  rw [Function.comp_apply, found]
  exact presents_item requested named

theorem nodup_kept (surroundings : Surroundings) (requestId : String) (body : SearchBody)
    (distinct : (results.map SearchResult.id).Nodup) :
    ((kept (rerank? surroundings requestId body results) results).map SearchResult.id).Nodup := by
  cases reranked : rerank? surroundings requestId body results with
  | none => exact distinct
  | some report =>
      refine Rerank.Outcome.nodup_map_apply (fun positions ranks => ?_) distinct
      rw [rerank?] at reranked
      split at reranked
      · split at reranked <;> cases reranked
        exact Rerank.nodup_of_outcome_rerankResults ranks
      · cases reranked

end Items

/-! ## Answers -/

section Answers

variable {surroundings : Surroundings} {input : Json} {body : SearchBody} {request : SearchRequest}
  {strategy : Strategy} {results : List SearchResult}

/-- The search for a body comes to results that are all different, no more than wanted, and in the
store. -/
theorem searched_of_results (keyed : surroundings.store.Keyed)
    (accepted : SearchBody.check input = .accepted body) (requested : body.request? = .ok request)
    (planned : request.strategy = .ok strategy)
    (found : (surroundings.store.search surroundings.outage request).outcome = .ok results) :
    Searched surroundings body strategy results ∧ (results.map SearchResult.id).Nodup ∧
      results.length ≤ body.count := by
  have valid := SearchBody.valid_of_request? accepted requested
  rcases Store.search_eq_ok_iff.mp found with ⟨mode, _, called, _, _⟩
  rcases Store.exists_scope_of_search planned found with ⟨scope, narrowed⟩
  have runs := surroundings.store.runsBy planned called narrowed
  rcases Store.exists_results_of_runsBy runs with ⟨others, comesTo, foundIn⟩
  rcases Store.exists_shaped keyed valid planned called narrowed with ⟨_, alsoComesTo, shaped⟩
  cases comesTo.only _ _ found
  cases alsoComesTo.only _ _ found
  rcases SearchBody.request?_eq_ok_iff.mp requested with ⟨_, rfl⟩
  refine ⟨⟨planned, _, mode, requested, runs, found, fun result member => ?_⟩, shaped.distinct,
    shaped.length_le⟩
  rcases foundIn result member with ⟨chunk, isChunk⟩
  rcases Store.shows_of_search keyed found member with ⟨shownChunk, ⟨visible, shown⟩, _⟩
  -- One chunk was found and one can be seen; the identifier they share makes them the same.
  have same : chunk = shownChunk := by
    refine keyed.eq_of_id isChunk.stored visible.stored ?_
    exact isChunk.tells.id.symm.trans shown.id
  exact ⟨chunk, same ▸ visible.mono fun base listed => List.mem_eraseDups.mp listed, isChunk⟩

theorem consistent_answerFor (keyed : surroundings.store.KeyedThroughout)
    (searched : Searched surroundings body strategy results)
    (requested : body.request? = .ok request) (distinct : (results.map SearchResult.id).Nodup)
    (bounded : results.length ≤ body.count) (requestId : String) :
    Consistent surroundings.store body strategy results
      (kept (rerank? surroundings requestId body results) results)
      (answerFor surroundings requestId body request strategy results).json := by
  have found : kept (rerank? surroundings requestId body results) results ⊆ results :=
    fun _ left => mem_of_mem_kept left
  have keptDistinct := nodup_kept surroundings requestId body distinct
  have shown : ∀ result ∈ kept (rerank? surroundings requestId body results) results,
      ∃ chunk, result.Shows surroundings.store body.bases chunk := by
    intro result left
    rcases searched.ran with ⟨_, _, _, _, _, visible⟩
    rcases visible result (found left) with ⟨chunk, isVisible, isChunk⟩
    exact ⟨chunk, isVisible, isChunk.tells⟩
  rcases SearchBody.request?_eq_ok_iff.mp requested with ⟨_, rfl⟩
  exact {
    found
    distinct := keptDistinct
    length_le := (List.subperm_of_subset keptDistinct.of_map found).length_le.trans bounded
    items := by
      refine ⟨_, rfl, presents_items keyed requested shown, ?_⟩
      rw [List.length_map]
      rfl
    bases := rfl
    count := rfl
    strategy := rfl
  }

end Answers

/-- Every answer with status 200 to a search is consistent. It comes from a search for an accepted
body, and shows what reranking leaves of the results: each chunk with its tags and the name of its
document. -/
theorem answer_consistent (surroundings : Surroundings) (metrics : Metrics.Collector)
    (incoming : Incoming) (keyed : surroundings.store.KeyedThroughout)
    (routed : Route.ofPath? incoming.target.path = some .search)
    (posted : incoming.method = Route.search.method)
    (succeeded : (serve surroundings metrics incoming).answer.status = 200) :
    let served := serve surroundings metrics incoming
    ∃ body strategy results answer,
      submitted? surroundings.nestingLimit incoming.body = some body ∧
      Searched surroundings body strategy results ∧ served.answer.content = .json answer ∧
      Consistent surroundings.store body strategy results (kept served.reranking? results)
        answer := by
  intro served
  have reranked : served.reranking? =
      (handleSearch surroundings incoming.requestId incoming.body).reranking? :=
    reranking?_serve_search routed posted
  have serves : served.answer = _ := answer_serve_search routed posted
  rw [reranked, serves]
  rw [answer_serve_search routed posted] at succeeded
  cases answered : (handleSearch surroundings incoming.requestId incoming.body).answer? with
  | none =>
      rw [answered] at succeeded
      cases succeeded
  | some answer =>
      rw [answered] at succeeded
      rcases exists_submitted_of_status answered succeeded with ⟨body, submitted⟩
      rcases submitted?_eq_some_iff.mp submitted with ⟨input, _, accepted⟩
      rw [handleSearch_of_submitted submitted] at answered ⊢
      rcases exists_results_of_status accepted answered succeeded with
        ⟨request, strategy, results, requested, planned, found, reranking, content⟩
      rcases searched_of_results keyed.chunks accepted requested planned found with
        ⟨searched, distinct, bounded⟩
      refine ⟨body, strategy, results, _, submitted, searched, content, ?_⟩
      rw [reranking]
      exact consistent_answerFor keyed searched requested distinct bounded incoming.requestId

/-- A search for two chunks of one knowledge base, which it names twice, to be ranked by a query. -/
def repetitiveIncoming : Incoming :=
  { guardedIncoming with
    body :=
      ("\x7b\"knowledge_base_ids\":[\"a\",\"a\"],\"query\":\"q\",".toList ++
        "\"filters\":[\x7b\"tagSlot\":\"boolean3\",\"fieldType\":\"boolean\",".toList ++
        "\"value\":true\x7d]\x7d".toList).map fun character => UInt8.ofNat character.toNat }

def rankedSurroundings : Surroundings where
  store :=
    let chunk (id : String) : Chunk :=
      { id, base := "a", document := "d", position := 0, content := "text", tags := .flagged,
        vector := [] }
    { documents := [{ id := "d", base := "a", filename := "d.pdf" }]
      chunks := [chunk "1", chunk "2"] }
  settings := Rerank.keyedSettings
  endpoint := Rerank.mixedEndpoint
  outage := .none

/-- The chunks are answered in the order of their scores, which is not that of the store. -/
theorem repetitiveIncoming_consistent :
    let served := serve rankedSurroundings (.ofBounds []) repetitiveIncoming
    rankedSurroundings.store.KeyedThroughout ∧
    Route.ofPath? repetitiveIncoming.target.path = some .search ∧
    repetitiveIncoming.method = Route.search.method ∧ served.answer.status = 200 ∧
    served.reranking?.map Rerank.Report.outcome = some (.ranked [1, 0]) ∧
    ∃ body strategy results answer,
      submitted? Json.nestingLimit repetitiveIncoming.body = some body ∧
      Searched rankedSurroundings body strategy results ∧ served.answer.content = .json answer ∧
      Consistent rankedSurroundings.store body strategy results (kept served.reranking? results)
        answer := by
  have keyed : rankedSurroundings.store.KeyedThroughout :=
    ⟨by unfold Store.Keyed; decide +kernel, by decide +kernel⟩
  have routed : Route.ofPath? repetitiveIncoming.target.path = some .search := by decide +kernel
  have succeeded : (serve rankedSurroundings (.ofBounds []) repetitiveIncoming).answer.status =
      200 := by decide +kernel
  refine ⟨keyed, routed, rfl, succeeded, by decide +kernel, ?_⟩
  exact answer_consistent rankedSurroundings (.ofBounds []) repetitiveIncoming keyed routed rfl
    succeeded

end Service

end HybridSearch
