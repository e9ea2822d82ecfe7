import HybridSearch.Proofs.Retrieval.Results
import HybridSearch.Proofs.Store.Ranking

/-! How many results a search has. One query brings in as many as are wanted; a split search brings
in no more than the limit of its plan from each knowledge base, so it can fall short where the chunks
are unevenly spread. -/

namespace HybridSearch

/-! ## Chunks that qualify -/

/-- What a mode asks of a chunk besides that it can be seen. -/
structure Criterion where
  clauses : List Clause
  nearness? : Option Nearness
deriving Repr, DecidableEq

/-- Whether a chunk is near enough, where that is asked for. -/
def Criterion.isNear (criterion : Criterion) (chunk : Chunk) : Bool :=
  match criterion.nearness? with
  | some nearness => (Store.nearDistance? nearness chunk).isSome
  | none => true

/-- What a mode asks for on behalf of a request, unless the request lacks what the mode needs. -/
def SearchRequest.criterion (request : SearchRequest) : Mode → Except Failure Criterion
  | .tag => do
      request.requireFilters .tag
      return ⟨(← request.scope).clauses, none⟩
  | .vector => do
      return ⟨[], some (← request.requireNearness .vector)⟩
  | .hybrid => do
      request.requireFilters .hybrid
      let nearness ← request.requireNearness .hybrid
      return ⟨(← request.scope).clauses, some nearness⟩

namespace Store

/-- The chunks in some knowledge bases that meet a criterion. -/
def qualifying (store : Store) (bases : List String) (criterion : Criterion) : List Chunk :=
  (store.chunksIn ⟨bases, criterion.clauses⟩).filter criterion.isNear

/-- A chunk qualifies when it can be seen, satisfies the clauses, and has a distance strictly below
the threshold. -/
theorem mem_qualifying_iff (store : Store) (bases : List String) (criterion : Criterion)
    (chunk : Chunk) :
    chunk ∈ store.qualifying bases criterion ↔
      store.Visible bases chunk ∧
      (∀ clause ∈ criterion.clauses, clause.holds store.dayOf? chunk.tags = some true) ∧
      ∀ nearness, criterion.nearness? = some nearness →
        ∃ distance, cosineDistance? chunk.vector nearness.vector = some distance ∧
          distance < nearness.threshold := by
  rw [qualifying, List.mem_filter, mem_chunksIn_iff, and_assoc]
  refine and_congr_right fun _ => and_congr_right fun _ => ?_
  rw [Criterion.isNear]
  cases criterion.nearness? with
  | none => simp
  | some nearness =>
      simp [Option.isSome_iff_exists, nearDistance?_eq_some_iff]

theorem length_select_tagged (store : Store) (scope : Scope) (limit : Nat) :
    (store.select (.tagged scope limit)).length =
      min limit (store.qualifying scope.bases ⟨scope.clauses, none⟩).length := by
  have all : store.qualifying scope.bases ⟨scope.clauses, none⟩ = store.chunksIn scope :=
    List.filter_eq_self.mpr fun _ _ => rfl
  rw [all, select, List.length_map, List.length_take, byBase, length_sortBy]

theorem length_select_nearest (store : Store) (bases : List String) (nearness : Nearness)
    (limit : Nat) :
    (store.select (.nearest bases nearness limit)).length =
      min limit (store.qualifying bases ⟨[], some nearness⟩).length := by
  have found := (map_fst_ranked_perm nearness (byBase (store.chunksIn ⟨bases, []⟩))).trans
    ((sortBy_perm ..).filter (Criterion.isNear ⟨[], some nearness⟩))
  have counted := found.length_eq
  rw [List.length_map] at counted
  rw [select_nearest, List.length_map, List.length_take, rankedIn, counted]
  rfl

/-! ## One knowledge base after the other -/

theorem qualifying_eq_filter (store : Store) (bases : List String) (criterion : Criterion) :
    store.qualifying bases criterion =
      (store.chunks.filter fun chunk => store.isSearchable chunk && criterion.isNear chunk &&
        criterion.clauses.all fun clause => (clause.holds store.dayOf? chunk.tags).isTrue).filter
          fun chunk => chunk.base ∈ bases := by
  rw [qualifying, chunksIn, List.filter_filter, List.filter_filter]
  refine List.filter_congr fun chunk _ => ?_
  rw [inScope]
  ac_rfl

/-- Different knowledge bases share no chunk. -/
theorem length_filter_mem_cons {base : String} {rest : List String} (new : base ∉ rest)
    (chunks : List Chunk) :
    (chunks.filter fun chunk => chunk.base ∈ base :: rest).length =
      (chunks.filter fun chunk => chunk.base ∈ [base]).length +
        (chunks.filter fun chunk => chunk.base ∈ rest).length := by
  induction chunks with
  | nil => rfl
  | cons chunk others induction =>
      simp only [List.filter_cons, List.mem_cons, List.not_mem_nil, or_false, Bool.decide_or]
        at induction ⊢
      by_cases here : chunk.base = base
      · simp [here, new]
        omega
      · by_cases there : chunk.base ∈ rest
        · simp [here, there]
          omega
        · simp [here, there]
          omega

theorem length_qualifying (store : Store) (criterion : Criterion) {bases : List String}
    (distinct : bases.Nodup) :
    (store.qualifying bases criterion).length =
      (bases.map fun base => (store.qualifying [base] criterion).length).sum := by
  induction bases with
  | nil => simp [qualifying_eq_filter]
  | cons base rest induction =>
      rcases List.nodup_cons.mp distinct with ⟨new, restDistinct⟩
      rw [List.map_cons, List.sum_cons, ← induction restDistinct]
      simp only [qualifying_eq_filter]
      exact length_filter_mem_cons new _

/-- How many of the chunks that qualify the queries of a plan bring in: all of them with one query
for all knowledge bases, and at most the limit from each with a query for each. -/
def broughtIn (store : Store) (strategy : Strategy) (bases : List String)
    (criterion : Criterion) : Nat :=
  if strategy.useParallel then
    (bases.map fun base =>
      min strategy.parallelLimit (store.qualifying [base] criterion).length).sum
  else (store.qualifying bases criterion).length

theorem sum_min_le (limit : Nat) (counts : List Nat) :
    (counts.map (min limit)).sum ≤ counts.sum := by
  induction counts with
  | nil => exact Nat.le_refl _
  | cons count rest induction =>
      rw [List.map_cons, List.sum_cons, List.sum_cons]
      omega

theorem sum_min_eq_iff (limit : Nat) (counts : List Nat) :
    (counts.map (min limit)).sum = counts.sum ↔ ∀ count ∈ counts, count ≤ limit := by
  induction counts with
  | nil => simp
  | cons count rest induction =>
      have bounded := sum_min_le limit rest
      rw [List.map_cons, List.sum_cons, List.sum_cons, List.forall_mem_cons, ← induction]
      omega

/-! ## Whole searches -/

theorem length_resultsTagged (store : Store) (strategy : Strategy) (scope : Scope) (count : Nat) :
    (store.resultsTagged strategy scope count).length =
      min count (store.broughtIn strategy scope.bases ⟨scope.clauses, none⟩) := by
  rw [resultsTagged, broughtIn]
  split
  · rw [List.length_take, List.length_flatMap]
    simp only [length_select_tagged]
  · exact length_select_tagged ..

theorem length_resultsNearest (store : Store) (strategy : Strategy) (bases : List String)
    (nearness : Nearness) (count : Nat) :
    (store.resultsNearest strategy bases nearness count).length =
      min count (store.broughtIn strategy bases ⟨[], some nearness⟩) := by
  rw [resultsNearest, broughtIn]
  split
  · rw [List.length_take, nearestResults, length_sortBy, List.length_flatMap]
    simp only [length_select_nearest]
  · exact length_select_nearest ..

/-- The distances that a criterion asks for can be taken. -/
def MeasuresFor (store : Store) (bases : List String) (criterion : Criterion) : Prop :=
  ∀ nearness, criterion.nearness? = some nearness → store.Measures ⟨bases, []⟩ nearness.vector

/-- A search for tags alone or for a vector alone comes to as many results as its queries bring in, up
to the count. -/
theorem searchIn_comesTo (store : Store) {request : SearchRequest} {strategy : Strategy}
    (planned : request.strategy = .ok strategy) {mode : Mode} (single : mode ≠ .hybrid)
    {criterion : Criterion} (prepared : request.criterion mode = .ok criterion) :
    ∃ results, ComesTo (store.searchIn · mode request)
        (store.MeasuresFor request.bases criterion) results ∧
      results.length =
        min request.count (store.broughtIn strategy request.bases criterion) := by
  cases mode with
  | tag =>
      simp only [SearchRequest.criterion, Outcome.bind_eq_ok_iff, Outcome.pure_eq_ok_iff]
        at prepared
      rcases prepared with ⟨_, required, scope, narrowed, rfl⟩
      rcases SearchRequest.scope_eq_ok_iff.mp narrowed with ⟨compiled, _, rfl⟩
      simp only [searchIn_tag_eq (SearchRequest.requireFilters_eq_ok_iff.mp required) planned
        narrowed]
      exact ⟨_, (store.searchTagged_comesTo ..).mono fun _ => trivial,
        store.length_resultsTagged ..⟩
  | vector =>
      simp only [SearchRequest.criterion, Outcome.bind_eq_ok_iff, Outcome.pure_eq_ok_iff]
        at prepared
      rcases prepared with ⟨nearness, required, rfl⟩
      rcases SearchRequest.requireNearness_eq_ok_iff.mp required with ⟨given, stated, filled⟩
      simp only [searchIn_vector_eq planned given filled stated]
      exact ⟨_, (store.searchNearest_comesTo ..).mono fun measures => measures nearness rfl,
        store.length_resultsNearest ..⟩
  | hybrid => exact absurd rfl single

/-- What the queries bring in is enough exactly when there is one query, or every knowledge base
stays within the limit, or the limited queries fill the count all the same. -/
theorem min_broughtIn_eq_iff (store : Store) (strategy : Strategy) {bases : List String}
    (distinct : bases.Nodup) (criterion : Criterion) (count : Nat) :
    min count (store.broughtIn strategy bases criterion) =
        min count (store.qualifying bases criterion).length ↔
      (strategy.useParallel = true →
        count ≤ store.broughtIn strategy bases criterion ∨
          ∀ base ∈ bases,
            (store.qualifying [base] criterion).length ≤ strategy.parallelLimit) := by
  cases split : strategy.useParallel with
  | false => simp [broughtIn, split]
  | true =>
      have limited := sum_min_le strategy.parallelLimit
        (bases.map fun base => (store.qualifying [base] criterion).length)
      have complete := sum_min_eq_iff strategy.parallelLimit
        (bases.map fun base => (store.qualifying [base] criterion).length)
      rw [List.map_map, ← store.length_qualifying criterion distinct] at limited complete
      have brought : store.broughtIn strategy bases criterion =
          (bases.map (min strategy.parallelLimit ∘ fun base =>
            (store.qualifying [base] criterion).length)).sum := by
        rw [broughtIn, if_pos split]
        rfl
      rw [List.forall_mem_map] at complete
      rw [brought, ← complete]
      simp only [true_implies]
      omega

/-- A valid request for tags alone or for a vector alone has as many results as its queries bring in,
up to its count, whenever it has results; and it has them where all sessions can be opened and its
distances can be taken. They are as many as there could be exactly when one query serves all knowledge
bases, or the limited queries fill the count, or no knowledge base has more chunks that qualify than
the limit. -/
theorem length_results_eq_iff (store : Store) (request : SearchRequest) (valid : request.Valid)
    (mode : Mode) (single : mode ≠ .hybrid) (criterion : Criterion)
    (prepared : request.criterion mode = .ok criterion) :
    ∃ strategy, request.strategy = .ok strategy ∧
      (store.MeasuresFor request.bases criterion →
        ∃ results, (store.searchIn .none mode request).outcome = .ok results) ∧
      ∀ outage results, (store.searchIn outage mode request).outcome = .ok results →
        results.length =
          min request.count (store.broughtIn strategy request.bases criterion) ∧
        (results.length =
            min request.count (store.qualifying request.bases criterion).length ↔
          (strategy.useParallel = true →
            request.count ≤ store.broughtIn strategy request.bases criterion ∨
              ∀ base ∈ request.bases,
                (store.qualifying [base] criterion).length ≤ strategy.parallelLimit)) := by
  rcases valid.exists_strategy with ⟨strategy, planned⟩
  rcases store.searchIn_comesTo planned single prepared with ⟨found, comesTo, length⟩
  refine ⟨strategy, planned, fun measures => ⟨found, comesTo.found measures⟩, ?_⟩
  intro outage results ran
  rw [comesTo.only outage results ran, length]
  exact ⟨rfl, store.min_broughtIn_eq_iff strategy valid.bases_nodup criterion request.count⟩

/-- A store in which all chunks that a request asks for lie in one of its knowledge bases. -/
def skewedStore : Store :=
  let chunk (id : String) : Chunk :=
    { id, base := "a", document := "d", position := 0, content := "text", tags := .flagged
      vector := [] }
  { documents := [{ id := "d", base := "a", filename := "d.pdf" }]
    chunks := ["1", "2", "3", "4", "5", "6", "7", "8"].map chunk }

/-- A request for eight chunks of five knowledge bases, of which each may bring in seven. -/
def skewedRequest : SearchRequest where
  bases := ["a", "b", "c", "d", "e"]
  count := 8
  filters := [⟨"boolean3", "boolean", "eq", .bool true, .null⟩]
  vector? := none
  threshold? := none

def skewedCriterion : Criterion :=
  ⟨[⟨.boolean (Fin.last 2) false true, []⟩], none⟩

theorem skewedRequest_valid : skewedRequest.Valid where
  bases_ne_nil := by decide
  bases_nodup := by decide
  count_pos := by decide
  count_le := by decide
  vector_length := nofun

theorem skewedRequest_criterion : skewedRequest.criterion .tag = .ok skewedCriterion := by
  decide +kernel

theorem skewedRequest_counted : skewedRequest.Valid ∧ Mode.tag ≠ .hybrid ∧
    skewedRequest.criterion .tag = .ok skewedCriterion ∧
    ∃ strategy results, skewedRequest.strategy = .ok strategy ∧
      (skewedStore.searchIn .none .tag skewedRequest).outcome = .ok results ∧
      results.length =
        min 8 (skewedStore.broughtIn strategy skewedRequest.bases skewedCriterion) := by
  have single : Mode.tag ≠ .hybrid := by decide
  rcases length_results_eq_iff skewedStore skewedRequest skewedRequest_valid .tag single
    skewedCriterion skewedRequest_criterion with ⟨strategy, planned, comes, counted⟩
  have measures : skewedStore.MeasuresFor skewedRequest.bases skewedCriterion := nofun
  rcases comes measures with ⟨results, ran⟩
  exact ⟨skewedRequest_valid, single, skewedRequest_criterion, strategy, results, planned, ran,
    (counted .none results ran).1⟩

/-- A search can have fewer results than there are chunks for it: seven of eight are brought in. -/
theorem not_all_chunks_brought_in :
    ¬∀ (store : Store) (request : SearchRequest), request.Valid →
      ∀ criterion, request.criterion .tag = .ok criterion →
        ∀ results, (store.searchIn .none .tag request).outcome = .ok results →
          results.length =
            min request.count (store.qualifying request.bases criterion).length := by
  intro complete
  have results : ((skewedStore.searchIn .none .tag skewedRequest).outcome.map List.length) =
      .ok 7 := by
    decide +kernel
  have there : (skewedStore.qualifying skewedRequest.bases skewedCriterion).length = 8 := by
    decide +kernel
  rcases Outcome.map_eq_ok_iff.mp results with ⟨found, ran, seven⟩
  have equal := complete skewedStore skewedRequest skewedRequest_valid skewedCriterion
    skewedRequest_criterion found ran
  rw [there, seven] at equal
  cases equal

end Store

end HybridSearch
