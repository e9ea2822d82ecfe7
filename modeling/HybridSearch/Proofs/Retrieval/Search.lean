import HybridSearch.Proofs.Retrieval.Gathering
import HybridSearch.Proofs.Strategy

/-! The ways through a search: what was prepared for a mode, and which queries its results come
from. -/

namespace HybridSearch

/-! ## Queries and their sessions -/

/-- A failure of a query: its session cannot be opened, or a distance cannot be taken. -/
inductive Failure.OfQuery : Failure → Prop where
  | session (number : Nat) : OfQuery (.session number)
  | unmeasurable : OfQuery .unmeasurable

namespace Store

variable {store : Store} {outage : Outage}

theorem fetch_eq_ok_iff {session : Nat} {selection : Selection} {results : List SearchResult} :
    store.fetch outage session selection = .ok results ↔
      outage session = false ∧ store.canAnswer selection = true ∧
        store.select selection = results := by
  rw [fetch]
  cases outage session <;> cases store.canAnswer selection <;> simp

theorem ofQuery_of_fetch_eq_error {session : Nat} {selection : Selection} {failure : Failure}
    (failed : store.fetch outage session selection = .error failure) : failure.OfQuery := by
  rw [fetch] at failed
  split at failed
  · cases failed
    exact .session session
  · split at failed <;> cases failed
    exact .unmeasurable

/-- Where all sessions can be opened, only a distance can fail a query. -/
theorem fetch_none (store : Store) (session : Nat) (selection : Selection) :
    store.fetch .none session selection =
      if store.canAnswer selection then .ok (store.select selection) else .error .unmeasurable :=
  rfl

/-- The queries of a split search all give results when their sessions, numbered from `first` on, can
be opened, and all of them can be answered. -/
theorem map_fetch_eq_iff (selection : String → Selection) (bases : List String) (first : Nat)
    (parts : List (List SearchResult)) :
    (bases.zipIdx first).map (fun (base, session) =>
        store.fetch outage session (selection base)) = parts.map .ok ↔
      (∀ session, first ≤ session → session < first + bases.length → outage session = false) ∧
        (∀ base ∈ bases, store.canAnswer (selection base) = true) ∧
          (bases.map fun base => store.select (selection base)) = parts := by
  induction bases generalizing first parts with
  | nil =>
      constructor
      · intro equal
        exact ⟨fun session lower upper => by rw [List.length_nil] at upper; omega,
          nofun, by simpa [eq_comm] using equal⟩
      · intro found
        rcases found with ⟨_, _, rfl⟩
        rfl
  | cons base rest induction =>
      cases parts with
      | nil => simp
      | cons part others =>
          rw [List.zipIdx_cons, List.map_cons, List.map_cons, List.map_cons, List.cons.injEq,
            List.cons.injEq, fetch_eq_ok_iff, induction, List.length_cons, List.forall_mem_cons]
          constructor
          · intro fetched
            rcases fetched with ⟨⟨firstOpen, answered, found⟩, restOpen, restAnswered, restFound⟩
            refine ⟨fun session lower upper => ?_, ⟨answered, restAnswered⟩, found, restFound⟩
            rcases Nat.eq_or_lt_of_le lower with rfl | behind
            · exact firstOpen
            · exact restOpen session behind (by omega)
          · intro fetched
            rcases fetched with ⟨opened, ⟨answered, restAnswered⟩, found, restFound⟩
            exact ⟨⟨opened first (Nat.le_refl _) (by omega), answered, found⟩,
              fun session lower upper => opened session (by omega) (by omega), restAnswered,
              restFound⟩

theorem fanOut_eq_ok_iff {bases : List String} {selection : String → Selection}
    {results : List SearchResult} :
    store.fanOut outage bases selection = .ok results ↔
      (∀ session < bases.length, outage session = false) ∧
        (∀ base ∈ bases, store.canAnswer (selection base) = true) ∧
          (bases.flatMap fun base => store.select (selection base)) = results := by
  rw [fanOut, gather_eq_ok_iff]
  simp only [map_fetch_eq_iff, Nat.zero_le, Nat.zero_add, true_implies]
  constructor
  · intro gathered
    rcases gathered with ⟨parts, ⟨opened, answered, rfl⟩, rfl⟩
    exact ⟨opened, answered, List.flatMap_def⟩
  · intro gathered
    rcases gathered with ⟨opened, answered, rfl⟩
    exact ⟨_, ⟨opened, answered, rfl⟩, List.flatMap_def.symm⟩

theorem ofQuery_of_fanOut_eq_error {bases : List String} {selection : String → Selection}
    {failure : Failure} (failed : store.fanOut outage bases selection = .error failure) :
    failure.OfQuery := by
  rcases List.mem_map.mp (mem_of_gather_eq_error failed) with ⟨_, _, fetched⟩
  exact ofQuery_of_fetch_eq_error fetched

end Store

/-! ## What a mode needs -/

namespace SearchRequest

variable {request : SearchRequest}

theorem hasFilters_eq_true_iff : request.hasFilters = true ↔ request.filters ≠ [] := by
  simp [hasFilters]

theorem hasVector_eq_true_iff :
    request.hasVector = true ↔ ∃ vector, request.vector? = some vector ∧ vector ≠ [] := by
  rw [hasVector]
  cases request.vector? <;> simp

theorem requireFilters_eq_ok_iff {mode : Mode} :
    request.requireFilters mode = .ok () ↔ request.hasFilters = true := by
  rw [requireFilters]
  split <;> simp_all

theorem requireNearness_eq_ok_iff {mode : Mode} {nearness : Nearness} :
    request.requireNearness mode = .ok nearness ↔
      request.vector? = some nearness.vector ∧ request.threshold? = some nearness.threshold ∧
        nearness.vector ≠ [] := by
  rcases nearness with ⟨vector, threshold⟩
  rw [requireNearness]
  split
  · next given givenThreshold vectorGiven thresholdGiven =>
      rw [vectorGiven, thresholdGiven]
      split
      · next empty =>
          rw [List.isEmpty_iff] at empty
          simp +contextual [empty]
      · next filled =>
          rw [List.isEmpty_iff] at filled
          constructor
          · intro equal
            cases equal
            exact ⟨rfl, rfl, filled⟩
          · intro near
            rcases near with ⟨sameVector, sameThreshold, _⟩
            cases sameVector
            cases sameThreshold
            rfl
  · next absent =>
      refine iff_of_false (by simp) ?_
      intro near
      rcases near with ⟨vectorGiven, thresholdGiven, _⟩
      exact absent _ _ vectorGiven thresholdGiven

theorem requireNearness_of_given {vector : List Float} {threshold : Float}
    (given : request.vector? = some vector) (filled : vector ≠ [])
    (stated : request.threshold? = some threshold) (mode : Mode) :
    request.requireNearness mode = .ok ⟨vector, threshold⟩ :=
  requireNearness_eq_ok_iff.mpr ⟨given, stated, filled⟩

theorem scope_eq_ok_iff {scope : Scope} :
    request.scope = .ok scope ↔ ∃ compiled, Compiled.ofFilters request.filters = .ok compiled ∧
      ⟨request.bases, compiled.clauses⟩ = scope :=
  Outcome.map_eq_ok_iff

theorem bases_of_scope {scope : Scope} (narrowed : request.scope = .ok scope) :
    scope.bases = request.bases := by
  rcases scope_eq_ok_iff.mp narrowed with ⟨_, _, rfl⟩
  rfl

end SearchRequest

namespace Retrieved

@[simp] theorem outcome_observed (mode : Mode) (strategy : Strategy) (sessions : Nat)
    (outcome : Except Failure (List SearchResult)) :
    (observed mode strategy sessions outcome).outcome = outcome :=
  rfl

variable {α : Type} {prepared : Except Failure α} {run : α → Retrieved}

theorem after_eq_ok_iff {results : List SearchResult} :
    (after prepared run).outcome = .ok results ↔
      ∃ value, prepared = .ok value ∧ (run value).outcome = .ok results := by
  cases prepared <;> simp [after, refused]

theorem after_eq_error_iff {failure : Failure} :
    (after prepared run).outcome = .error failure ↔
      prepared = .error failure ∨
        ∃ value, prepared = .ok value ∧ (run value).outcome = .error failure := by
  cases prepared <;> simp [after, refused]

end Retrieved

namespace Store

open SearchRequest

variable {store : Store} {outage : Outage} {request : SearchRequest}

theorem searchIn_tag_eq_ok_iff {results : List SearchResult} :
    (store.searchIn outage .tag request).outcome = .ok results ↔
      request.hasFilters = true ∧ ∃ strategy scope, request.strategy = .ok strategy ∧
        request.scope = .ok scope ∧
          (store.searchTagged outage strategy scope request.count).outcome = .ok results := by
  rw [searchIn, Retrieved.after_eq_ok_iff]
  simp only [Outcome.bind_eq_ok_iff, Outcome.pure_eq_ok_iff]
  constructor
  · intro searched
    rcases searched with ⟨_, ⟨_, required, strategy, planned, scope, narrowed, rfl⟩, succeeded⟩
    exact ⟨requireFilters_eq_ok_iff.mp required, strategy, scope, planned, narrowed, succeeded⟩
  · intro searched
    rcases searched with ⟨filters, strategy, scope, planned, narrowed, succeeded⟩
    exact ⟨_, ⟨(), requireFilters_eq_ok_iff.mpr filters, strategy, planned, scope, narrowed, rfl⟩,
      succeeded⟩

theorem searchIn_vector_eq_ok_iff {results : List SearchResult} :
    (store.searchIn outage .vector request).outcome = .ok results ↔
      ∃ nearness strategy, request.requireNearness .vector = .ok nearness ∧
        request.strategy = .ok strategy ∧
          (store.searchNearest outage strategy request.bases nearness request.count).outcome =
            .ok results := by
  rw [searchIn, Retrieved.after_eq_ok_iff]
  simp only [Outcome.bind_eq_ok_iff, Outcome.pure_eq_ok_iff]
  constructor
  · intro searched
    rcases searched with ⟨_, ⟨nearness, required, strategy, planned, rfl⟩, succeeded⟩
    exact ⟨nearness, strategy, required, planned, succeeded⟩
  · intro searched
    rcases searched with ⟨nearness, strategy, required, planned, succeeded⟩
    exact ⟨_, ⟨nearness, required, strategy, planned, rfl⟩, succeeded⟩

theorem searchIn_hybrid_eq_ok_iff {results : List SearchResult} :
    (store.searchIn outage .hybrid request).outcome = .ok results ↔
      request.hasFilters = true ∧ ∃ nearness strategy scope,
        request.requireNearness .hybrid = .ok nearness ∧ request.strategy = .ok strategy ∧
          request.scope = .ok scope ∧
            (store.searchHybrid outage strategy scope nearness request.count).outcome =
              .ok results := by
  rw [searchIn, Retrieved.after_eq_ok_iff]
  simp only [Outcome.bind_eq_ok_iff, Outcome.pure_eq_ok_iff]
  constructor
  · intro searched
    rcases searched with
      ⟨_, ⟨_, required, nearness, near, strategy, planned, scope, narrowed, rfl⟩, succeeded⟩
    exact ⟨requireFilters_eq_ok_iff.mp required, nearness, strategy, scope, near, planned, narrowed,
      succeeded⟩
  · intro searched
    rcases searched with ⟨filters, nearness, strategy, scope, near, planned, narrowed, succeeded⟩
    exact ⟨_, ⟨(), requireFilters_eq_ok_iff.mpr filters, nearness, near, strategy, planned, scope,
      narrowed, rfl⟩, succeeded⟩

end Store

/-! ## The mode that a request calls for -/

/-- The mode that the inputs of a request call for, if it has any. -/
def SearchRequest.mode? (request : SearchRequest) : Option Mode :=
  match request.hasFilters, request.hasVector with
  | true, true => some .hybrid
  | true, false => some .tag
  | false, true => some .vector
  | false, false => none

/-- The threshold that a search goes by: that of the request, or that of its plan. -/
def SearchRequest.thresholdFor (request : SearchRequest) (strategy : Strategy) : Float :=
  request.threshold?.getD strategy.distanceThreshold

theorem SearchRequest.filters_eq_nil_of_mode? {request : SearchRequest}
    (called : request.mode? = some .vector) : request.filters = [] := by
  rw [mode?] at called
  cases given : request.hasFilters with
  | false => simpa [hasFilters] using given
  | true =>
      rw [given] at called
      cases vector : request.hasVector <;> rw [vector] at called <;> cases called

namespace Store

variable {store : Store} {outage : Outage} {request : SearchRequest}

theorem search_eq (store : Store) (outage : Outage) (request : SearchRequest) :
    store.search outage request =
      match request.mode? with
      | none => .refused (.unmet .filtersOrVector)
      | some mode => .after (withThreshold request) (store.searchIn outage mode) := by
  rw [search, SearchRequest.mode?]
  cases request.hasFilters <;> cases request.hasVector <;> rfl

theorem search_eq_ok_iff {results : List SearchResult} :
    (store.search outage request).outcome = .ok results ↔
      ∃ mode completed, request.mode? = some mode ∧ withThreshold request = .ok completed ∧
        (store.searchIn outage mode completed).outcome = .ok results := by
  rw [search_eq]
  cases request.mode? with
  | none => simp [Retrieved.refused]
  | some mode =>
      rw [Retrieved.after_eq_ok_iff]
      simp

/-- A request that is given a threshold stays as it is otherwise. -/
theorem eq_of_withThreshold {completed : SearchRequest}
    (given : withThreshold request = .ok completed) :
    completed = { request with threshold? := completed.threshold? } := by
  rw [withThreshold] at given
  split at given
  · rcases Outcome.map_eq_ok_iff.mp given with ⟨strategy, _, rfl⟩
    rfl
  · cases given
    rfl

theorem withThreshold_of_absent (absent : request.hasVector = false) :
    withThreshold request = .ok request := by
  rw [withThreshold, absent]
  rfl

theorem withThreshold_eq {strategy : Strategy} (planned : request.strategy = .ok strategy)
    (given : request.hasVector = true) :
    withThreshold request =
      .ok { request with threshold? := some (request.thresholdFor strategy) } := by
  rw [withThreshold, SearchRequest.thresholdFor, given, planned]
  cases stated : request.threshold? with
  | none => rfl
  | some threshold =>
      have same : { request with threshold? := some threshold } = request := by rw [← stated]
      exact (congrArg Except.ok same).symm

end Store

end HybridSearch
