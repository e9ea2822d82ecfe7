import HybridSearch.Proofs.Filter.Overflow
import HybridSearch.Proofs.Retrieval.Search

/-! How a search fails. A valid request fails for a query, whose session cannot be opened or whose
distances cannot be taken, or for a filter that cannot be read, and in no other way that depends on its
filters. -/

namespace HybridSearch

namespace SearchRequest

variable {request : SearchRequest} {mode : Mode} {failure : Failure}

theorem unmet_of_requireFilters_eq_error (failed : request.requireFilters mode = .error failure) :
    ∃ precondition, failure = .unmet precondition := by
  rw [requireFilters] at failed
  split at failed <;> cases failed
  exact ⟨_, rfl⟩

theorem unmet_of_requireNearness_eq_error
    (failed : request.requireNearness mode = .error failure) :
    ∃ precondition, failure = .unmet precondition := by
  rw [requireNearness] at failed
  split at failed
  · split at failed <;> cases failed
    exact ⟨_, rfl⟩
  · cases failed
    exact ⟨_, rfl⟩

theorem scope_eq_error_iff :
    request.scope = .error failure ↔
      failure = .integerTooLarge ∧ ∃ raw ∈ request.filters, raw.Overflows := by
  rw [scope, Outcome.map_eq_error_iff, Compiled.ofFilters_eq_error_iff]

end SearchRequest

namespace Store

variable {store : Store} {outage : Outage} {strategy : Strategy} {count : Nat}
  {failure : Failure}

theorem ofQuery_of_searchTagged_eq_error {scope : Scope}
    (failed : (store.searchTagged outage strategy scope count).outcome = .error failure) :
    failure.OfQuery := by
  rw [searchTagged] at failed
  split at failed
  · exact ofQuery_of_fanOut_eq_error (Outcome.map_eq_error_iff.mp failed)
  · exact ofQuery_of_fetch_eq_error failed

theorem ofQuery_of_searchNearest_eq_error {bases : List String} {nearness : Nearness}
    (failed :
      (store.searchNearest outage strategy bases nearness count).outcome = .error failure) :
    failure.OfQuery := by
  rw [searchNearest] at failed
  split at failed
  · exact ofQuery_of_fanOut_eq_error (Outcome.map_eq_error_iff.mp failed)
  · exact ofQuery_of_fetch_eq_error failed

theorem ofQuery_of_searchHybrid_eq_error {scope : Scope} {nearness : Nearness}
    (failed :
      (store.searchHybrid outage strategy scope nearness count).outcome = .error failure) :
    failure.OfQuery := by
  rw [searchHybrid] at failed
  split at failed
  · cases failed
    exact .session 0
  · split at failed
    · cases failed
    · exact ofQuery_of_fetch_eq_error failed

variable {request : SearchRequest} {mode : Mode}

/-- With a plan, a search in one mode fails for what the mode needs, for a filter, or for a query. -/
theorem causes_of_searchIn_eq_error (planned : request.strategy = .ok strategy)
    (failed : (store.searchIn outage mode request).outcome = .error failure) :
    (∃ precondition, failure = .unmet precondition) ∨ request.scope = .error failure ∨
      failure.OfQuery := by
  cases mode with
  | tag =>
      rw [searchIn, Retrieved.after_eq_error_iff] at failed
      simp only [Outcome.bind_eq_error_iff, planned] at failed
      rcases failed with (required | ⟨_, _, impossible | ⟨_, _, narrowed | ⟨_, _, impossible⟩⟩⟩) |
        ⟨_, _, ran⟩
      · exact .inl (SearchRequest.unmet_of_requireFilters_eq_error required)
      · cases impossible
      · exact .inr (.inl narrowed)
      · cases impossible
      · exact .inr (.inr (ofQuery_of_searchTagged_eq_error ran))
  | vector =>
      rw [searchIn, Retrieved.after_eq_error_iff] at failed
      simp only [Outcome.bind_eq_error_iff, planned] at failed
      rcases failed with (required | ⟨_, _, impossible | ⟨_, _, impossible⟩⟩) | ⟨_, _, ran⟩
      · exact .inl (SearchRequest.unmet_of_requireNearness_eq_error required)
      · cases impossible
      · cases impossible
      · exact .inr (.inr (ofQuery_of_searchNearest_eq_error ran))
  | hybrid =>
      rw [searchIn, Retrieved.after_eq_error_iff] at failed
      simp only [Outcome.bind_eq_error_iff, planned] at failed
      rcases failed with (required | ⟨_, _, required | ⟨_, _, impossible |
        ⟨_, _, narrowed | ⟨_, _, impossible⟩⟩⟩⟩) | ⟨_, _, ran⟩
      · exact .inl (SearchRequest.unmet_of_requireFilters_eq_error required)
      · exact .inl (SearchRequest.unmet_of_requireNearness_eq_error required)
      · cases impossible
      · exact .inr (.inl narrowed)
      · cases impossible
      · exact .inr (.inr (ofQuery_of_searchHybrid_eq_error ran))

theorem searchIn_tag_of_scope_eq_error (filters : request.hasFilters = true)
    (planned : request.strategy = .ok strategy) (failed : request.scope = .error failure) :
    (store.searchIn outage .tag request).outcome = .error failure := by
  rw [searchIn, Retrieved.after_eq_error_iff]
  refine .inl ?_
  rw [SearchRequest.requireFilters_eq_ok_iff.mpr filters, planned, failed]
  rfl

theorem searchIn_hybrid_of_scope_eq_error (filters : request.hasFilters = true)
    {nearness : Nearness} (near : request.requireNearness .hybrid = .ok nearness)
    (planned : request.strategy = .ok strategy) (failed : request.scope = .error failure) :
    (store.searchIn outage .hybrid request).outcome = .error failure := by
  rw [searchIn, Retrieved.after_eq_error_iff]
  refine .inl ?_
  rw [SearchRequest.requireFilters_eq_ok_iff.mpr filters, near, planned, failed]
  rfl

theorem exists_withThreshold (planned : request.strategy = .ok strategy) :
    ∃ threshold?, withThreshold request = .ok { request with threshold? } := by
  cases given : request.hasVector with
  | false => exact ⟨_, withThreshold_of_absent given⟩
  | true => exact ⟨_, withThreshold_eq planned given⟩

/-- A filter that cannot be read fails the search that it is part of. -/
theorem search_of_scope_eq_error (planned : request.strategy = .ok strategy)
    (filters : request.hasFilters = true) (failed : request.scope = .error failure) :
    (store.search outage request).outcome = .error failure := by
  rw [search_eq]
  cases given : request.hasVector with
  | false =>
      have called : request.mode? = some .tag := by rw [SearchRequest.mode?, filters, given]
      rw [called, withThreshold_of_absent given]
      exact searchIn_tag_of_scope_eq_error filters planned failed
  | true =>
      have called : request.mode? = some .hybrid := by rw [SearchRequest.mode?, filters, given]
      rcases SearchRequest.hasVector_eq_true_iff.mp given with ⟨vector, found, filled⟩
      have near : SearchRequest.requireNearness
          { request with threshold? := some (request.thresholdFor strategy) } .hybrid =
            .ok ⟨vector, request.thresholdFor strategy⟩ :=
        SearchRequest.requireNearness_eq_ok_iff.mpr ⟨found, rfl, filled⟩
      rw [called, withThreshold_eq planned given]
      exact searchIn_hybrid_of_scope_eq_error filters near planned failed

/-- A valid request fails for an integer that is too large exactly when one of its filters cannot be
read. -/
theorem search_eq_integerTooLarge_iff (store : Store) (outage : Outage) (valid : request.Valid) :
    (store.search outage request).outcome = .error .integerTooLarge ↔
      ∃ raw ∈ request.filters, raw.Overflows := by
  rcases valid.exists_strategy with ⟨strategy, planned⟩
  constructor
  · intro failed
    rw [search_eq] at failed
    rcases exists_withThreshold planned with ⟨threshold?, given⟩
    cases called : request.mode? with
    | none =>
        rw [called] at failed
        cases failed
    | some mode =>
        rw [called, given] at failed
        have plannedToo : SearchRequest.strategy { request with threshold? } = .ok strategy :=
          planned
        have ran : (store.searchIn outage mode { request with threshold? }).outcome = _ := failed
        rcases causes_of_searchIn_eq_error plannedToo ran with
          ⟨_, impossible⟩ | narrowed | impossible
        · cases impossible
        · exact (SearchRequest.scope_eq_error_iff.mp narrowed).2
        · cases impossible
  · intro overflowing
    rcases overflowing with ⟨raw, member, overflows⟩
    have filters : request.hasFilters = true := by
      simpa [SearchRequest.hasFilters] using List.ne_nil_of_mem member
    exact search_of_scope_eq_error planned filters
      (SearchRequest.scope_eq_error_iff.mpr ⟨rfl, raw, member, overflows⟩)

end Store

end HybridSearch
