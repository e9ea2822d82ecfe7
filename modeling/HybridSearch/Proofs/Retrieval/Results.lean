import HybridSearch.Proofs.Retrieval.Search
import HybridSearch.Proofs.Store.Ranking

/-! What a search comes to. Sessions and distances decide only whether there are results, not which:
the results are those of the queries of its mode, and a request for a whole search takes the same way
as one for the mode that it calls for, with the threshold of its plan if it gives none. -/

namespace HybridSearch

/-- A search has these results when all its sessions can be opened and the distances that it takes can
be taken, and never any others. -/
structure ComesTo (run : Outage → Retrieved) (measurable : Prop) (results : List SearchResult) :
    Prop where
  found : measurable → (run .none).outcome = .ok results
  only : ∀ outage others, (run outage).outcome = .ok others → others = results

theorem ComesTo.mono {run : Outage → Retrieved} {measurable sufficient : Prop}
    {results : List SearchResult} (comesTo : ComesTo run measurable results)
    (implied : sufficient → measurable) : ComesTo run sufficient results where
  found holds := comesTo.found (implied holds)
  only := comesTo.only

namespace Store

def resultsTagged (store : Store) (strategy : Strategy) (scope : Scope) (count : Nat) :
    List SearchResult :=
  if strategy.useParallel then
    (scope.bases.flatMap fun base =>
      store.select (.tagged ⟨[base], scope.clauses⟩ strategy.parallelLimit)).take count
  else store.select (.tagged scope count)

def resultsNearest (store : Store) (strategy : Strategy) (bases : List String)
    (nearness : Nearness) (count : Nat) : List SearchResult :=
  if strategy.useParallel then
    (nearestResults (bases.flatMap fun base =>
      store.select (.nearest [base] nearness strategy.parallelLimit))).take count
  else store.select (.nearest bases nearness count)

/-! What the parts of a split search by distance bring in lies below the threshold, so it can be put in
order. -/

theorem nearestResults_sorted {nearness : Nearness} {results : List SearchResult}
    (below : ∀ result ∈ results, result.distance < nearness.threshold) :
    (nearestResults results).Pairwise fun nearer farther => nearer.distance ≤ farther.distance :=
  (pairwise_sortBy_number (fun result member => Number.le_self_of_lt (below result member))
    (List.pairwise_of_forall fun _ _ => trivial : results.Pairwise fun _ _ => True)).imp And.left

theorem lt_threshold_of_flatMap (store : Store) (bases : List String) (nearness : Nearness)
    (limit : Nat) :
    ∀ result ∈ bases.flatMap fun base => store.select (.nearest [base] nearness limit),
      result.distance < nearness.threshold := by
  intro result member
  rcases List.mem_flatMap.mp member with ⟨base, _, inBase⟩
  exact lt_threshold_of_shown inBase

/-- A search by tags and one by distance are split in the same way: one query is asked for each
knowledge base and the results are joined, or one query is asked for all. -/
theorem split_comesTo (store : Store) (strategy : Strategy) (mode : Mode) (bases : List String)
    (part : String → Selection) (whole : Selection)
    (joined : List SearchResult → List SearchResult) {measurable : Prop}
    (answersParts : measurable → ∀ base ∈ bases, store.canAnswer (part base) = true)
    (answersWhole : measurable → store.canAnswer whole = true) :
    ComesTo
      (fun outage =>
        if strategy.useParallel then
          .observed mode strategy bases.length ((store.fanOut outage bases part).map joined)
        else .observed mode strategy 1 (store.fetch outage 0 whole))
      measurable
      (if strategy.useParallel then joined (bases.flatMap fun base => store.select (part base))
        else store.select whole) where
  found measured := by
    split
    · apply Outcome.map_eq_ok_iff.mpr
      exact ⟨_, fanOut_eq_ok_iff.mpr ⟨fun _ _ => rfl, answersParts measured, rfl⟩, rfl⟩
    · rw [Retrieved.outcome_observed, fetch_none, if_pos (answersWhole measured)]
  only outage others ran := by
    split at ran
    · next parallel =>
        rcases Outcome.map_eq_ok_iff.mp ran with ⟨found, gathered, rfl⟩
        rw [if_pos parallel, (fanOut_eq_ok_iff.mp gathered).2.2]
    · next single => rw [if_neg single, (fetch_eq_ok_iff.mp ran).2.2]

theorem searchTagged_comesTo (store : Store) (strategy : Strategy) (scope : Scope)
    (count : Nat) :
    ComesTo (store.searchTagged · strategy scope count) True
      (store.resultsTagged strategy scope count) :=
  store.split_comesTo strategy .tag scope.bases _ _ (·.take count) (fun _ _ _ => rfl) fun _ => rfl

theorem searchNearest_comesTo (store : Store) (strategy : Strategy) (bases : List String)
    (nearness : Nearness) (count : Nat) :
    ComesTo (store.searchNearest · strategy bases nearness count)
      (store.Measures ⟨bases, []⟩ nearness.vector)
      (store.resultsNearest strategy bases nearness count) := by
  apply store.split_comesTo strategy .vector bases _ _ fun results =>
    (nearestResults results).take count
  · intro measures base listed
    exact canAnswer_nearest_iff.mpr (measures_iff_forall_base.mp measures base listed)
  · intro measures
    exact canAnswer_nearest_iff.mpr measures

theorem searchHybrid_comesTo (store : Store) (strategy : Strategy) (scope : Scope)
    (nearness : Nearness) (count : Nat) :
    ComesTo (store.searchHybrid · strategy scope nearness count)
      (store.canAnswer (.nearestAmong scope nearness count) = true)
      (store.select (.nearestAmong scope nearness count)) where
  found answers := by
    have opened : ¬Outage.none 0 = true := Bool.false_ne_true
    rw [searchHybrid, if_neg opened]
    -- Without candidates the ranking is not asked for, and it would find nothing.
    split
    · next empty =>
        rw [Retrieved.outcome_observed,
          store.select_nearestAmong_of_no_candidates (List.isEmpty_iff.mp empty)]
    · rw [Retrieved.outcome_observed, fetch_none, if_pos answers]
  only outage others ran := by
    rw [searchHybrid] at ran
    split at ran
    · cases ran
    · split at ran
      · next empty =>
          cases ran
          rw [store.select_nearestAmong_of_no_candidates (List.isEmpty_iff.mp empty)]
      · exact (fetch_eq_ok_iff.mp ran).2.2.symm

/-- A ranking that cannot be answered fails the search that asks for it. There are candidates then, or
nothing would have been asked. -/
theorem searchHybrid_of_unmeasurable {strategy : Strategy} {scope : Scope} {nearness : Nearness}
    {count : Nat} {store : Store}
    (unanswered : store.canAnswer (.nearestAmong scope nearness count) = false) :
    (store.searchHybrid .none strategy scope nearness count).outcome = .error .unmeasurable := by
  have opened : ¬Outage.none 0 = true := Bool.false_ne_true
  rw [searchHybrid, if_neg opened]
  split
  · next empty =>
      have answers := store.canAnswer_nearestAmong_of_no_candidates (List.isEmpty_iff.mp empty)
        nearness count
      cases unanswered.symm.trans answers
  · rw [Retrieved.outcome_observed, fetch_none, unanswered, if_neg Bool.false_ne_true]

end Store

/-! ## Whole searches -/

namespace Store

variable {store : Store} {outage : Outage} {strategy : Strategy} {request : SearchRequest}
  {vector : List Float} {threshold : Float} {scope : Scope}

theorem searchIn_tag_eq (filters : request.hasFilters = true)
    (planned : request.strategy = .ok strategy) (narrowed : request.scope = .ok scope) :
    store.searchIn outage .tag request =
      store.searchTagged outage strategy scope request.count := by
  rw [searchIn, SearchRequest.requireFilters_eq_ok_iff.mpr filters, planned, narrowed]
  rfl

theorem searchIn_vector_eq (planned : request.strategy = .ok strategy)
    (given : request.vector? = some vector) (filled : vector ≠ [])
    (stated : request.threshold? = some threshold) :
    store.searchIn outage .vector request =
      store.searchNearest outage strategy request.bases ⟨vector, threshold⟩ request.count := by
  rw [searchIn, SearchRequest.requireNearness_of_given given filled stated, planned]
  rfl

theorem searchIn_hybrid_eq (filters : request.hasFilters = true)
    (planned : request.strategy = .ok strategy) (narrowed : request.scope = .ok scope)
    (given : request.vector? = some vector) (filled : vector ≠ [])
    (stated : request.threshold? = some threshold) :
    store.searchIn outage .hybrid request =
      store.searchHybrid outage strategy scope ⟨vector, threshold⟩ request.count := by
  rw [searchIn, SearchRequest.requireFilters_eq_ok_iff.mpr filters,
    SearchRequest.requireNearness_of_given given filled stated, planned, narrowed]
  rfl

theorem search_tag_eq (filters : request.filters ≠ []) (absent : request.hasVector = false)
    (planned : request.strategy = .ok strategy) (narrowed : request.scope = .ok scope) :
    store.search outage request = store.searchTagged outage strategy scope request.count := by
  have filtered := SearchRequest.hasFilters_eq_true_iff.mpr filters
  rw [search_eq, SearchRequest.mode?, filtered, absent]
  simp only [withThreshold_of_absent absent, Retrieved.after]
  exact searchIn_tag_eq filtered planned narrowed

theorem search_vector_eq (unfiltered : request.filters = [])
    (planned : request.strategy = .ok strategy) (given : request.vector? = some vector)
    (filled : vector ≠ []) :
    store.search outage request =
      store.searchNearest outage strategy request.bases
        ⟨vector, request.thresholdFor strategy⟩ request.count := by
  have unasked : request.hasFilters = false := by simp [SearchRequest.hasFilters, unfiltered]
  have hasVector := SearchRequest.hasVector_eq_true_iff.mpr ⟨vector, given, filled⟩
  rw [search_eq, SearchRequest.mode?, unasked, hasVector]
  simp only [withThreshold_eq planned hasVector, Retrieved.after]
  exact searchIn_vector_eq planned given filled rfl

theorem search_hybrid_eq (filters : request.filters ≠ [])
    (planned : request.strategy = .ok strategy) (narrowed : request.scope = .ok scope)
    (given : request.vector? = some vector) (filled : vector ≠ []) :
    store.search outage request =
      store.searchHybrid outage strategy scope ⟨vector, request.thresholdFor strategy⟩
        request.count := by
  have filtered := SearchRequest.hasFilters_eq_true_iff.mpr filters
  have hasVector := SearchRequest.hasVector_eq_true_iff.mpr ⟨vector, given, filled⟩
  rw [search_eq, SearchRequest.mode?, filtered, hasVector]
  simp only [withThreshold_eq planned hasVector, Retrieved.after]
  exact searchIn_hybrid_eq filtered planned narrowed given filled rfl

end Store

end HybridSearch
