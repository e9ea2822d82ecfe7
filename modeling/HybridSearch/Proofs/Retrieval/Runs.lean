import HybridSearch.Proofs.Retrieval.Failure
import HybridSearch.Proofs.Retrieval.Visibility

/-! Searches that run. A valid request that has something to search by, and filters that can be read,
runs one of the three searches, by its plan. From then on only a query can fail it, and whatever it
finds is in the store. -/

namespace HybridSearch

/-- A request runs the search of a mode by a plan. The threshold is that of the plan unless the request
gives one. -/
inductive RunsBy (store : Store) (request : SearchRequest) (strategy : Strategy) : Mode → Prop where
  | tag (scope : Scope) (absent : request.hasVector = false)
      (narrowed : request.scope = .ok scope)
      (runs : ∀ outage, store.search outage request =
        store.searchTagged outage strategy scope request.count) :
      RunsBy store request strategy .tag
  | vector (vector : List Float) (given : request.vector? = some vector)
      (runs : ∀ outage, store.search outage request =
        store.searchNearest outage strategy request.bases
          ⟨vector, request.thresholdFor strategy⟩ request.count) :
      RunsBy store request strategy .vector
  | hybrid (scope : Scope) (vector : List Float) (given : request.vector? = some vector)
      (narrowed : request.scope = .ok scope)
      (runs : ∀ outage, store.search outage request =
        store.searchHybrid outage strategy scope
          ⟨vector, request.thresholdFor strategy⟩ request.count) :
      RunsBy store request strategy .hybrid

/-- The vector of a request, if it has one, and all vectors of a store are finite. -/
def SearchRequest.FiniteIn (request : SearchRequest) (store : Store) : Prop :=
  ∀ vector, request.vector? = some vector → store.FiniteWith vector

/-- A result shows a chunk of a store, at its distance from the vector if there is one. -/
structure SearchResult.FoundIn (result : SearchResult) (store : Store)
    (request : SearchRequest) (chunk : Chunk) : Prop where
  stored : chunk ∈ store.chunks
  tells : result.TellsOf chunk
  distance : ∀ vector, request.vector? = some vector → vector ≠ [] →
    cosineDistance? chunk.vector vector = some result.distance

namespace Store

variable {store : Store} {request : SearchRequest} {strategy : Strategy} {mode : Mode}

theorem runsBy (store : Store) (planned : request.strategy = .ok strategy)
    (called : request.mode? = some mode) {scope : Scope} (narrowed : request.scope = .ok scope) :
    RunsBy store request strategy mode := by
  rw [SearchRequest.mode?] at called
  -- What is given decides the mode, so the cases are those of the filters and of the vector.
  cases filtered : request.hasFilters <;> cases hasVector : request.hasVector <;>
    rw [filtered, hasVector] at called <;> cases called
  case false.true =>
    rcases SearchRequest.hasVector_eq_true_iff.mp hasVector with ⟨vector, given, filled⟩
    have unfiltered : request.filters = [] := by simpa [SearchRequest.hasFilters] using filtered
    exact .vector vector given fun _ => search_vector_eq unfiltered planned given filled
  case true.false =>
    have filters := SearchRequest.hasFilters_eq_true_iff.mp filtered
    exact .tag scope hasVector narrowed fun _ => search_tag_eq filters hasVector planned narrowed
  case true.true =>
    rcases SearchRequest.hasVector_eq_true_iff.mp hasVector with ⟨vector, given, filled⟩
    have filters := SearchRequest.hasFilters_eq_true_iff.mp filtered
    exact .hybrid scope vector given narrowed fun _ =>
      search_hybrid_eq filters planned narrowed given filled

theorem ofQuery_of_runsBy (runs : RunsBy store request strategy mode) {outage : Outage}
    {failure : Failure} (failed : (store.search outage request).outcome = .error failure) :
    failure.OfQuery := by
  cases runs with
  | tag scope absent narrowed runs =>
      rw [runs] at failed
      exact ofQuery_of_searchTagged_eq_error failed
  | vector vector given runs =>
      rw [runs] at failed
      exact ofQuery_of_searchNearest_eq_error failed
  | hybrid scope vector given narrowed runs =>
      rw [runs] at failed
      exact ofQuery_of_searchHybrid_eq_error failed

theorem foundIn_of_near {nearness : Nearness} {chunk : Chunk} {distance : Float}
    (stored : chunk ∈ store.chunks) (given : request.vector? = some nearness.vector)
    (near : nearDistance? nearness chunk = some distance) :
    (chunk.result distance).FoundIn store request chunk where
  stored := stored
  tells := chunk.result_tellsOf distance
  distance vector same _ := by
    cases given.symm.trans same
    exact (nearDistance?_eq_some_iff.mp near).1

theorem exists_foundIn_of_nearest {bases : List String} {nearness : Nearness} {limit : Nat}
    (given : request.vector? = some nearness.vector) {result : SearchResult}
    (found : result ∈ store.select (.nearest bases nearness limit)) :
    ∃ chunk, result.FoundIn store request chunk := by
  rcases exists_chunk_of_nearest found with ⟨chunk, among, distance, near, rfl⟩
  exact ⟨chunk, foundIn_of_near (List.mem_filter.mp among).1 given near⟩

/-- A search that runs comes to results all of which are in the store. -/
theorem exists_results_of_runsBy (runs : RunsBy store request strategy mode) :
    ∃ results, ComesTo (store.search · request) (request.FiniteIn store) results ∧
      ∀ result ∈ results, ∃ chunk, result.FoundIn store request chunk := by
  cases runs with
  | tag scope absent narrowed runs =>
      simp only [runs]
      refine ⟨_, (store.searchTagged_comesTo ..).mono fun _ => trivial, fun result member => ?_⟩
      have ran := (store.searchTagged_comesTo strategy scope request.count).found trivial
      rcases exists_chunk_of_searchTagged ran member with ⟨chunk, among, shown⟩
      refine ⟨chunk, (List.mem_filter.mp among).1, ?_, fun vector given filled => ?_⟩
      · rw [shown]
        exact chunk.result_tellsOf result.distance
      · cases absent.symm.trans (SearchRequest.hasVector_eq_true_iff.mpr ⟨vector, given, filled⟩)
  | vector vector given runs =>
      simp only [runs]
      refine ⟨_, (store.searchNearest_comesTo ..).mono fun finite =>
        (finite vector given).measures _, fun result member => ?_⟩
      rw [resultsNearest] at member
      split at member
      · have merged := (mem_sortBy ..).mp (List.mem_of_mem_take member)
        rcases List.mem_flatMap.mp merged with ⟨base, _, found⟩
        exact exists_foundIn_of_nearest given found
      · exact exists_foundIn_of_nearest given member
  | hybrid scope vector given narrowed runs =>
      simp only [runs]
      refine ⟨_, (store.searchHybrid_comesTo ..).mono fun finite =>
        (finite vector given).canAnswer_nearestAmong scope request.count, fun result member => ?_⟩
      rcases exists_chunk_of_shown member with ⟨chunk, among, distance, near, rfl⟩
      exact ⟨chunk, foundIn_of_near (List.mem_filter.mp ((mem_sortBy ..).mp among)).1 given near⟩

end Store

end HybridSearch
