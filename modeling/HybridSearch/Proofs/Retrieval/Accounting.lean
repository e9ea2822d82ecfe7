import HybridSearch.Proofs.Metrics.Totals
import HybridSearch.Proofs.Retrieval.Count
import HybridSearch.Proofs.Retrieval.Hybrid
import Mathlib.Data.List.ReduceOption

/-! The metrics account for every search. A call that has what its mode needs is observed once, under
that mode and the plan of its request, whatever becomes of it; any other call is refused and leaves no
trace. -/

namespace HybridSearch

/-! ## Calls -/

namespace SearchRequest

/-- A request has the filters that a mode needs, and they can be compiled. -/
def HasScope (request : SearchRequest) : Prop :=
  request.filters ≠ [] ∧ ∃ compiled, Compiled.ofFilters request.filters = .ok compiled

/-- A request has the vector and the threshold that a mode needs. -/
def HasNearness (request : SearchRequest) : Prop :=
  (∃ vector, request.vector? = some vector ∧ vector ≠ []) ∧
    ∃ threshold, request.threshold? = some threshold

end SearchRequest

/-- One call of the searcher: in a given mode, or in the one that the inputs of the request call
for. -/
structure SearchCall where
  store : Store
  outage : Outage
  mode? : Option Mode
  request : SearchRequest

namespace SearchCall

def run (call : SearchCall) : Retrieved :=
  match call.mode? with
  | some mode => call.store.searchIn call.outage mode call.request
  | none => call.store.search call.outage call.request

/-- What is observed of a call, unless it was refused. -/
def observation? (call : SearchCall) : Option Metrics.Observation :=
  call.run.observation?

/-- A call is one in a mode and has what that mode needs: filters that can be compiled, a vector, and a
threshold, which may only be missing where the mode was not given. -/
structure Admitted (call : SearchCall) (mode : Mode) : Prop where
  called : call.mode?.or call.request.mode? = some mode
  filters : mode ≠ .vector → call.request.HasScope
  vector : mode ≠ .tag → ∃ vector, call.request.vector? = some vector ∧ vector ≠ []
  threshold : mode ≠ .tag → call.mode? ≠ none →
    ∃ threshold, call.request.threshold? = some threshold

/-- What the metrics keep of a call: its mode, whether its plan is to split it, and how many results it
came to, if it succeeded. -/
structure Entry where
  mode : Mode
  parallel : Bool
  found? : Option Nat

namespace Entry

/-- What an entry adds to the number of searches. -/
def counted (entry : Entry) : List String × Int :=
  ([entry.mode.label, Metrics.Observation.strategyLabel entry.parallel,
    Metrics.Observation.outcomeLabel entry.found?.isSome], 1)

/-- What an entry adds to the number of results. -/
def results? (entry : Entry) : Option (List String × Int) :=
  entry.found?.map fun count => ([entry.mode.label], count)

def observation (entry : Entry) : Metrics.Observation :=
  .search (.string entry.mode.label) entry.parallel entry.found?.isSome (.float 0.0)
    (.integer (entry.found?.getD 0))

end Entry

/-- The entry of a call, if it has one. -/
inductive Accounted (call : SearchCall) : Option Entry → Prop where
  | ran {mode : Mode} {strategy : Strategy} (admitted : call.Admitted mode)
      (planned : Strategy.select call.request.bases.length call.request.count = .ok strategy) :
      Accounted call
        (some ⟨mode, strategy.useParallel, call.run.outcome.toOption.map List.length⟩)
  | refused {failure : Failure} (unadmitted : ∀ mode, ¬call.Admitted mode)
      (failed : call.run.outcome = .error failure) : Accounted call none

end SearchCall

/-! ## Searches are observed -/

namespace Retrieved

/-- It is what a search in a mode came to, and is observed under its mode and plan. -/
def IsObserved (retrieved : Retrieved) (mode : Mode) (strategy : Strategy) : Prop :=
  ∃ sessions outcome, retrieved = .observed mode strategy sessions outcome

/-- It is observed where a search has what it needs, and refused where it has not. -/
def ObservedIf (retrieved : Retrieved) (ready : Prop) (mode : Mode) (strategy : Strategy) : Prop :=
  ready ∧ retrieved.IsObserved mode strategy ∨ ¬ready ∧ ∃ failure, retrieved = .refused failure

theorem ObservedIf.of_after {α : Type} {prepared : Except Failure α} {run : α → Retrieved}
    {ready : Prop} {mode : Mode} {strategy : Strategy}
    (prepares : (∃ value, prepared = .ok value) ↔ ready)
    (observes : ∀ value, prepared = .ok value → (run value).IsObserved mode strategy) :
    (after prepared run).ObservedIf ready mode strategy := by
  cases outcome : prepared with
  | ok value => exact .inl ⟨prepares.mp ⟨value, outcome⟩, observes value outcome⟩
  | error failure =>
      refine .inr ⟨fun isReady => ?_, failure, rfl⟩
      rcases prepares.mpr isReady with ⟨value, succeeded⟩
      cases outcome.symm.trans succeeded

theorem ObservedIf.congr {retrieved : Retrieved} {ready other : Prop} {mode : Mode}
    {strategy : Strategy} (observedIf : retrieved.ObservedIf ready mode strategy)
    (same : ready ↔ other) : retrieved.ObservedIf other mode strategy := by
  rwa [ObservedIf, ← same]

end Retrieved

namespace Store

variable {store : Store} {outage : Outage} {strategy : Strategy} {count : Nat}

theorem isObserved_searchTagged (scope : Scope) :
    (store.searchTagged outage strategy scope count).IsObserved .tag strategy := by
  rw [searchTagged]
  split <;> exact ⟨_, _, rfl⟩

theorem isObserved_searchNearest (bases : List String) (nearness : Nearness) :
    (store.searchNearest outage strategy bases nearness count).IsObserved .vector strategy := by
  rw [searchNearest]
  split <;> exact ⟨_, _, rfl⟩

theorem isObserved_searchHybrid (scope : Scope) (nearness : Nearness) :
    (store.searchHybrid outage strategy scope nearness count).IsObserved .hybrid strategy := by
  rw [searchHybrid]
  split
  · exact ⟨_, _, rfl⟩
  · split <;> exact ⟨_, _, rfl⟩

end Store

namespace SearchRequest

variable {request : SearchRequest}

theorem exists_scope_iff (mode : Mode) :
    (request.requireFilters mode = .ok () ∧ ∃ scope, request.scope = .ok scope) ↔
      request.HasScope := by
  rw [requireFilters_eq_ok_iff, hasFilters_eq_true_iff, HasScope]
  refine and_congr_right fun _ => ?_
  simp only [scope_eq_ok_iff]
  constructor
  · rintro ⟨_, compiled, returned, rfl⟩
    exact ⟨compiled, returned⟩
  · rintro ⟨compiled, returned⟩
    exact ⟨_, compiled, returned, rfl⟩

theorem exists_nearness_iff (mode : Mode) :
    (∃ nearness, request.requireNearness mode = .ok nearness) ↔ request.HasNearness := by
  simp only [requireNearness_eq_ok_iff, HasNearness]
  constructor
  · rintro ⟨nearness, given, stated, filled⟩
    exact ⟨⟨_, given, filled⟩, _, stated⟩
  · rintro ⟨⟨vector, given, filled⟩, threshold, stated⟩
    exact ⟨⟨vector, threshold⟩, given, stated, filled⟩

theorem hasVector_iff_of_mode? {mode : Mode} (called : request.mode? = some mode) :
    request.hasVector = true ↔ mode ≠ .tag := by
  rw [mode?] at called
  cases filtered : request.hasFilters <;> cases hasVector : request.hasVector <;>
    rw [filtered, hasVector] at called <;> cases called <;> simp

/-- What a mode needs of a request. -/
def Meets (request : SearchRequest) (mode : Mode) : Prop :=
  (mode ≠ .vector → request.HasScope) ∧ (mode ≠ .tag → request.HasNearness)

end SearchRequest

namespace Store

open SearchRequest

variable {store : Store} {outage : Outage} {request : SearchRequest} {strategy : Strategy}

theorem observedIf_searchIn (store : Store) (outage : Outage) (mode : Mode)
    (planned : request.strategy = .ok strategy) :
    (store.searchIn outage mode request).ObservedIf (request.Meets mode) mode strategy := by
  cases mode with
  | tag =>
      refine .of_after ?_ fun value prepared => ?_
      · rw [Meets, ← exists_scope_iff .tag]
        simp only [Outcome.bind_eq_ok_iff, Outcome.pure_eq_ok_iff, planned]
        constructor
        · rintro ⟨_, _, filtered, _, _, scope, narrowed, _⟩
          exact ⟨fun _ => ⟨filtered, scope, narrowed⟩, fun other => absurd rfl other⟩
        · rintro ⟨byTags, _⟩
          rcases byTags (by decide) with ⟨filtered, scope, narrowed⟩
          exact ⟨_, (), filtered, _, rfl, scope, narrowed, rfl⟩
      · simp only [Outcome.bind_eq_ok_iff, Outcome.pure_eq_ok_iff, planned] at prepared
        rcases prepared with ⟨_, _, _, same, scope, _, rfl⟩
        cases same
        exact isObserved_searchTagged scope
  | vector =>
      refine .of_after ?_ fun value prepared => ?_
      · rw [Meets, ← exists_nearness_iff .vector]
        simp only [Outcome.bind_eq_ok_iff, Outcome.pure_eq_ok_iff, planned]
        constructor
        · rintro ⟨_, nearness, near, _⟩
          exact ⟨fun other => absurd rfl other, fun _ => ⟨nearness, near⟩⟩
        · rintro ⟨_, byVector⟩
          rcases byVector (by decide) with ⟨nearness, near⟩
          exact ⟨_, nearness, near, _, rfl, rfl⟩
      · simp only [Outcome.bind_eq_ok_iff, Outcome.pure_eq_ok_iff, planned] at prepared
        rcases prepared with ⟨nearness, _, _, same, rfl⟩
        cases same
        exact isObserved_searchNearest request.bases nearness
  | hybrid =>
      refine .of_after ?_ fun value prepared => ?_
      · rw [Meets, ← exists_scope_iff .hybrid, ← exists_nearness_iff .hybrid]
        simp only [Outcome.bind_eq_ok_iff, Outcome.pure_eq_ok_iff, planned]
        constructor
        · rintro ⟨_, _, filtered, nearness, near, _, _, scope, narrowed, _⟩
          exact ⟨fun _ => ⟨filtered, scope, narrowed⟩, fun _ => ⟨nearness, near⟩⟩
        · rintro ⟨byTags, byVector⟩
          rcases byTags (by decide) with ⟨filtered, scope, narrowed⟩
          rcases byVector (by decide) with ⟨nearness, near⟩
          exact ⟨_, (), filtered, nearness, near, _, rfl, scope, narrowed, rfl⟩
      · simp only [Outcome.bind_eq_ok_iff, Outcome.pure_eq_ok_iff, planned] at prepared
        rcases prepared with ⟨_, _, nearness, _, _, same, scope, _, rfl⟩
        cases same
        exact isObserved_searchHybrid scope nearness

/-- Where the inputs of a request call for a mode, it has all that the mode needs except, it may be,
filters that can be compiled. -/
theorem observedIf_search (store : Store) (outage : Outage) {mode : Mode}
    (called : request.mode? = some mode) (planned : request.strategy = .ok strategy) :
    (store.search outage request).ObservedIf (mode ≠ .vector → request.HasScope) mode strategy := by
  rw [search_eq, called]
  cases hasVector : request.hasVector with
  | false =>
      rw [withThreshold_of_absent hasVector]
      refine (observedIf_searchIn store outage mode planned).congr (and_iff_left ?_)
      intro byVector
      cases hasVector.symm.trans ((hasVector_iff_of_mode? called).mpr byVector)
  | true =>
      rw [withThreshold_eq planned hasVector]
      let completed := { request with threshold? := some (request.thresholdFor strategy) }
      have stillPlanned : completed.strategy = .ok strategy := planned
      refine (observedIf_searchIn store outage mode stillPlanned).congr (and_iff_left ?_)
      exact fun _ => ⟨hasVector_eq_true_iff.mp hasVector, _, rfl⟩

end Store

namespace SearchCall

open SearchRequest

variable {call : SearchCall} {mode : Mode} {strategy : Strategy}

theorem admitted_iff_of_given (given : call.mode? = some mode) (other : Mode) :
    call.Admitted other ↔ other = mode ∧ call.request.Meets mode := by
  constructor
  · rintro ⟨called, filters, vector, threshold⟩
    rw [given] at called
    cases called
    exact ⟨rfl, filters, fun byVector => ⟨vector byVector, threshold byVector (by simp [given])⟩⟩
  · rintro ⟨rfl, scope, nearness⟩
    exact ⟨by simp [given], scope, fun byVector => (nearness byVector).1,
      fun byVector _ => (nearness byVector).2⟩

/-- Where the mode was not given, the request has all that its mode needs except, it may be, filters
that can be compiled. -/
theorem admitted_iff_of_called (unstated : call.mode? = none) (called : call.request.mode? = some mode)
    (other : Mode) :
    call.Admitted other ↔ other = mode ∧ (mode ≠ .vector → call.request.HasScope) := by
  constructor
  · intro admitted
    have same := admitted.called
    rw [unstated, called] at same
    cases same
    exact ⟨rfl, admitted.filters⟩
  · rintro ⟨rfl, scope⟩
    exact ⟨by rw [unstated, called]; rfl, scope,
      fun byVector => hasVector_eq_true_iff.mp ((hasVector_iff_of_mode? called).mpr byVector),
      fun _ given => absurd unstated given⟩

theorem run_accounted (planned : call.request.strategy = .ok strategy) :
    (∃ mode, call.Admitted mode ∧ call.run.IsObserved mode strategy) ∨
      (∀ mode, ¬call.Admitted mode) ∧ ∃ failure, call.run = .refused failure := by
  rw [run]
  cases given : call.mode? with
  | some mode =>
      rcases Store.observedIf_searchIn call.store call.outage mode planned with
        ⟨meets, observed⟩ | ⟨unmet, refused⟩
      · exact .inl ⟨mode, (admitted_iff_of_given given mode).mpr ⟨rfl, meets⟩, observed⟩
      · refine .inr ⟨fun other admitted => unmet ?_, refused⟩
        exact ((admitted_iff_of_given given other).mp admitted).2
  | none =>
      dsimp only
      cases called : call.request.mode? with
      | none =>
          rw [Store.search_eq, called]
          refine .inr ⟨fun other admitted => ?_, _, rfl⟩
          have impossible := admitted.called
          rw [given, called] at impossible
          cases impossible
      | some mode =>
          rcases Store.observedIf_search call.store call.outage called planned with
            ⟨scope, observed⟩ | ⟨unmet, refused⟩
          · exact .inl ⟨mode, (admitted_iff_of_called given called mode).mpr ⟨rfl, scope⟩, observed⟩
          · refine .inr ⟨fun other admitted => unmet ?_, refused⟩
            exact ((admitted_iff_of_called given called other).mp admitted).2

/-- A call has no two entries. -/
theorem Accounted.unique {left right : Option Entry} (accounted : call.Accounted left)
    (also : call.Accounted right) : left = right := by
  cases accounted with
  | ran admitted planned =>
      cases also with
      | ran alsoAdmitted alsoPlanned =>
          cases admitted.called.symm.trans alsoAdmitted.called
          cases planned.symm.trans alsoPlanned
          rfl
      | refused unadmitted _ => exact absurd admitted (unadmitted _)
  | refused unadmitted _ =>
      cases also with
      | ran alsoAdmitted _ => exact absurd alsoAdmitted (unadmitted _)
      | refused _ _ => rfl

/-- A valid call has an entry, and what is observed of it is that entry. -/
theorem exists_accounted (valid : call.request.Valid) :
    ∃ account?, call.Accounted account? ∧ call.observation? = account?.map Entry.observation := by
  rcases valid.exists_strategy with ⟨strategy, planned⟩
  rcases run_accounted planned with ⟨mode, admitted, sessions, outcome, ran⟩ | ⟨unadmitted, failure, ran⟩
  · refine ⟨_, .ran admitted planned, ?_⟩
    rw [observation?, ran]
    cases outcome <;> rfl
  · refine ⟨none, .refused unadmitted (congrArg Retrieved.outcome ran), ?_⟩
    rw [observation?, ran]
    rfl

/-! ## Runs -/

theorem exists_entries {calls : List SearchCall} (valid : ∀ call ∈ calls, call.request.Valid) :
    ∃ entries, List.Forall₂ Accounted calls entries ∧
      calls.filterMap observation? = entries.reduceOption.map Entry.observation := by
  induction calls with
  | nil => exact ⟨[], .nil, rfl⟩
  | cons call rest induction =>
      rw [List.forall_mem_cons] at valid
      rcases exists_accounted valid.1 with ⟨account?, accounted, observed⟩
      rcases induction valid.2 with ⟨entries, others, observations⟩
      refine ⟨account? :: entries, .cons accounted others, ?_⟩
      cases account? with
      | none => rw [List.filterMap_cons_none observed, observations, List.reduceOption_cons_of_none]
      | some entry =>
          rw [List.filterMap_cons_some observed, observations, List.reduceOption_cons_of_some,
            List.map_cons]

theorem Entry.addends_searches (entry : Entry) :
    entry.observation.addends .searches = [entry.counted] := by
  rcases entry with ⟨mode, parallel, _ | count⟩ <;> rfl

theorem Entry.addends_results (entry : Entry) :
    entry.observation.addends .results = entry.results?.toList := by
  rcases entry with ⟨mode, parallel, _ | count⟩ <;> rfl

/-- The metrics account for every run of calls, over any stores and whatever sessions fail. Each call
that has what its mode needs counts once, under its mode, the strategy of its plan, and whether it gave
a list; each other call fails and counts nowhere. The results of a mode are those of the lists that it
gave. -/
theorem searches_accounted {bounds : List Json}
    (numeric : ∀ bound ∈ (Metrics.Collector.ofBounds bounds).bounds, bound.amount?.isSome = true)
    (calls : List SearchCall) (valid : ∀ call ∈ calls, call.request.Valid) :
    ∃ collector entries,
      Metrics.recordAll Metrics.Collector.observe (.ofBounds bounds)
        (calls.filterMap observation?) = .ok collector ∧
      List.Forall₂ Accounted calls entries ∧
      collector.Shows .searches (entries.reduceOption.map Entry.counted) ∧
      collector.Shows .results (entries.reduceOption.filterMap Entry.results?) := by
  rcases exists_entries valid with ⟨entries, accounted, observations⟩
  have whole : ∀ observation ∈ entries.reduceOption.map Entry.observation, observation.Whole := by
    intro observation member
    rcases List.mem_map.mp member with ⟨entry, _, rfl⟩
    exact Metrics.Observation.whole_search ..
  rcases Metrics.Collector.exists_recorded_of_whole numeric whole with ⟨collector, recorded⟩
  have shows := Metrics.Collector.shows_of_recordAll whole recorded
  refine ⟨collector, entries, observations ▸ recorded, accounted, ?_, ?_⟩
  · have searches := shows .searches
    simp only [List.flatMap_map, Entry.addends_searches] at searches
    rwa [← List.map_eq_flatMap] at searches
  · have results := shows .results
    simp only [List.flatMap_map, Entry.addends_results] at results
    rwa [← List.filterMap_eq_flatMap_toList] at results

/-- Calls of which one gives results, one fails on its way, one lacks the vector that its mode needs, and
one finds no candidates. -/
def mixedCalls : List SearchCall :=
  [⟨Store.skewedStore, .none, none, Store.skewedRequest⟩,
    ⟨Store.skewedStore, fun session => session = 2, some .tag, Store.skewedRequest⟩,
    ⟨Store.skewedStore, .none, some .vector, Store.skewedRequest⟩,
    ⟨{ documents := [], chunks := [] }, .none, none, Store.tiedRequest⟩]

theorem mixedCalls_valid : ∀ call ∈ mixedCalls, call.request.Valid := by
  have tied : Store.tiedRequest.Valid :=
    ⟨by decide, by decide, by decide, by decide, by rintro _ ⟨⟩; exact length_unitVector⟩
  simp only [mixedCalls, List.forall_mem_cons]
  exact ⟨Store.skewedRequest_valid, Store.skewedRequest_valid, Store.skewedRequest_valid, tied,
    by simp⟩

theorem Accounted.of_found {parallel : Bool} {found? : Option Nat} (admitted : call.Admitted mode)
    (planned : call.request.strategy = .ok strategy) (splits : strategy.useParallel = parallel)
    (found : call.run.outcome.toOption.map List.length = found?) :
    call.Accounted (some ⟨mode, parallel, found?⟩) := by
  subst splits found
  exact .ran admitted planned

theorem mixedCalls_accounted : List.Forall₂ Accounted mixedCalls
    [some ⟨.tag, true, some 7⟩, some ⟨.tag, true, none⟩, none, some ⟨.hybrid, true, some 0⟩] := by
  have skewed : Store.skewedRequest.HasScope := ⟨nofun, _, rfl⟩
  have tied : Store.tiedRequest.HasScope := ⟨nofun, _, rfl⟩
  have planned : Store.skewedRequest.strategy = .ok ⟨true, 0.8, 7, false⟩ := by decide +kernel
  have tiedPlanned : Store.tiedRequest.strategy = .ok ⟨true, 0.8, 7, false⟩ := by decide +kernel
  unfold mixedCalls
  refine .cons ?_ (.cons ?_ (.cons ?_ (.cons ?_ .nil)))
  · exact .of_found ⟨rfl, fun _ => skewed, nofun, nofun⟩ planned rfl (by decide +kernel)
  · exact .of_found ⟨rfl, fun _ => skewed, nofun, nofun⟩ planned rfl (by decide +kernel)
  · refine .refused (fun mode admitted => ?_) rfl
    cases admitted.called
    rcases admitted.vector nofun with ⟨_, given, _⟩
    cases given
  · have filled : unitVector ≠ [] := nofun
    exact .of_found ⟨by decide +kernel, fun _ => tied, fun _ => ⟨unitVector, rfl, filled⟩,
      fun _ given => absurd rfl given⟩ tiedPlanned rfl (by decide +kernel)

theorem mixedCalls_shown :
    (∀ bound ∈ (Metrics.Collector.ofBounds []).bounds, bound.amount?.isSome = true) ∧
    (∀ call ∈ mixedCalls, call.request.Valid) ∧
    ∃ collector,
      Metrics.recordAll Metrics.Collector.observe (.ofBounds []) (mixedCalls.filterMap observation?) =
        .ok collector ∧
      collector.Shows .searches [(["tag", "parallel", "success"], 1),
        (["tag", "parallel", "error"], 1), (["tag_vector", "parallel", "success"], 1)] ∧
      collector.Shows .results [(["tag"], 7), (["tag_vector"], 0)] := by
  have numeric : ∀ bound ∈ (Metrics.Collector.ofBounds []).bounds, bound.amount?.isSome = true := by
    decide
  rcases searches_accounted numeric mixedCalls mixedCalls_valid with
    ⟨collector, entries, recorded, accounted, searches, results⟩
  have unique : Relator.RightUnique Accounted := fun _ _ _ => Accounted.unique
  have same := List.right_unique_forall₂' unique accounted mixedCalls_accounted
  rw [same] at searches results
  exact ⟨numeric, mixedCalls_valid, collector, recorded, searches, results⟩

end SearchCall

end HybridSearch
