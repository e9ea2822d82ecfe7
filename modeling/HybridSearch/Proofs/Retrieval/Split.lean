import HybridSearch.Proofs.Retrieval.Results

/-! Searches that are split into one query for each knowledge base. Such a search comes to something
only when all its queries do, and then to the same, in whatever order they complete. -/

namespace HybridSearch

/-- Rows with the nearest first. Those at one distance stand as they came. -/
structure SortedByDistance (rows sorted : List SearchResult) : Prop where
  perm : sorted.Perm rows
  ordered : sorted.Pairwise fun nearer farther => nearer.distance ≤ farther.distance
  stable : ∀ distance : Float,
    (sorted.filter fun row => row.distance ≤ distance && distance ≤ row.distance) =
      rows.filter fun row => row.distance ≤ distance && distance ≤ row.distance

theorem Store.nearestResults_sortedByDistance {rows : List SearchResult}
    (isNumber : ∀ row ∈ rows, row.distance ≤ row.distance) :
    SortedByDistance rows (nearestResults rows) where
  perm := sortBy_perm ..
  ordered :=
    (pairwise_sortBy_number isNumber
      (List.pairwise_of_forall fun _ _ => trivial : rows.Pairwise fun _ _ => True)).imp And.left
  stable distance := by
    refine filter_sortBy (fun left right leftKept rightKept => ?_) rows
    simp only [Bool.and_eq_true, decide_eq_true_iff] at leftKept rightKept ⊢
    exact Number.le_trans leftKept.1 rightKept.2

/-- A search with one query for each of some knowledge bases. -/
structure Split where
  mode : Mode
  strategy : Strategy
  bases : List String
  query : String → Selection
  /-- What is wanted of the rows of all queries. -/
  wanted : List SearchResult → List SearchResult

namespace Split

def tagged (strategy : Strategy) (scope : Scope) (count : Nat) : Split where
  mode := .tag
  strategy
  bases := scope.bases
  query base := .tagged ⟨[base], scope.clauses⟩ strategy.parallelLimit
  wanted rows := rows.take count

def nearest (strategy : Strategy) (bases : List String) (nearness : Nearness) (count : Nat) :
    Split where
  mode := .vector
  strategy
  bases
  query base := .nearest [base] nearness strategy.parallelLimit
  wanted rows := (Store.nearestResults rows).take count

/-- What the queries come to in a store. -/
def outcomes (split : Split) (store : Store) (outage : Outage) :
    List (Except Failure (List SearchResult)) :=
  split.bases.zipIdx.map fun (base, session) => store.fetch outage session (split.query base)

/-- What the search comes to when its queries come to some outcomes, and complete in an order that is
given by their positions. -/
def run (split : Split) (outcomes : List (Except Failure (List SearchResult)))
    (order : List Nat) : Retrieved :=
  .observed split.mode split.strategy split.bases.length
    ((Gathering.receiveAll outcomes order).result.map split.wanted)

theorem length_outcomes (split : Split) (store : Store) (outage : Outage) :
    (split.outcomes store outage).length = split.bases.length := by
  simp [outcomes]

theorem run_outcomes (split : Split) (store : Store) (outage : Outage) :
    split.run (split.outcomes store outage) (List.range split.bases.length) =
      .observed split.mode split.strategy split.bases.length
        ((store.fanOut outage split.bases split.query).map split.wanted) := by
  rw [run, ← split.length_outcomes store outage]
  rfl

section Complete

variable {outcomes : List (Except Failure (List SearchResult))} {order : List Nat}

theorem run_of_failure (split : Split) (complete : order.Perm (List.range outcomes.length))
    (failed : ∃ failure, .error failure ∈ outcomes) :
    ∃ failure, .error failure ∈ outcomes ∧ split.run outcomes order =
      .observed split.mode split.strategy split.bases.length (.error failure) := by
  cases result : (Gathering.receiveAll outcomes order).result with
  | ok rows =>
      rcases failed with ⟨failure, member⟩
      rcases (Gathering.result_eq_ok_iff_of_perm complete).mp result with ⟨parts, allOk, _⟩
      rw [allOk] at member
      rcases List.mem_map.mp member with ⟨_, _, impossible⟩
      cases impossible
  | error failure =>
      refine ⟨failure, Gathering.mem_of_result_eq_error result, ?_⟩
      rw [run, result]
      rfl

theorem run_of_parts (split : Split) (complete : order.Perm (List.range outcomes.length))
    {parts : List (List SearchResult)} (allOk : outcomes = parts.map .ok) :
    split.run outcomes order =
      .observed split.mode split.strategy split.bases.length
        (.ok (split.wanted parts.flatten)) := by
  rw [run, Gathering.result_of_parts complete allOk]
  rfl

end Complete

end Split

/-- A request runs a split search: what its mode needs is there, and its plan is to split. -/
inductive SearchRequest.SplitsInto (request : SearchRequest) : Split → Prop where
  | tagged {strategy : Strategy} {scope : Scope} (filters : request.hasFilters = true)
      (planned : request.strategy = .ok strategy) (narrowed : request.scope = .ok scope)
      (parallel : strategy.useParallel = true) :
      request.SplitsInto (.tagged strategy scope request.count)
  | nearest {strategy : Strategy} {nearness : Nearness}
      (near : request.requireNearness .vector = .ok nearness)
      (planned : request.strategy = .ok strategy) (parallel : strategy.useParallel = true) :
      request.SplitsInto (.nearest strategy request.bases nearness request.count)

namespace SearchRequest.SplitsInto

variable {request : SearchRequest} {split : Split}

theorem searchIn_eq (splits : request.SplitsInto split) (store : Store) (outage : Outage) :
    store.searchIn outage split.mode request =
      split.run (split.outcomes store outage) (List.range split.bases.length) := by
  rw [split.run_outcomes]
  cases splits with
  | tagged filters planned narrowed parallel =>
      refine (Store.searchIn_tag_eq filters planned narrowed).trans ?_
      rw [Store.searchTagged, if_pos parallel]
      rfl
  | @nearest strategy nearness near planned parallel =>
      rcases SearchRequest.requireNearness_eq_ok_iff.mp near with ⟨given, stated, filled⟩
      refine (Store.searchIn_vector_eq planned given filled stated).trans ?_
      rw [Store.searchNearest, if_pos parallel]
      rfl

theorem bases_eq (splits : request.SplitsInto split) : split.bases = request.bases := by
  cases splits with
  | tagged filters planned narrowed parallel => exact SearchRequest.bases_of_scope narrowed
  | nearest near planned parallel => rfl

theorem useParallel (splits : request.SplitsInto split) : split.strategy.useParallel = true := by
  cases splits with
  | tagged filters planned narrowed parallel => exact parallel
  | nearest near planned parallel => exact parallel

theorem wanted_of_tag (splits : request.SplitsInto split) (tag : split.mode = .tag)
    (rows : List SearchResult) : split.wanted rows = rows.take request.count := by
  cases splits with
  | tagged => rfl
  | nearest => cases tag

theorem wanted_of_vector (splits : request.SplitsInto split) (vector : split.mode = .vector)
    {rows : List SearchResult} (isNumber : ∀ row ∈ rows, row.distance ≤ row.distance) :
    ∃ sorted, SortedByDistance rows sorted ∧ split.wanted rows = sorted.take request.count := by
  cases splits with
  | tagged => cases vector
  | nearest => exact ⟨_, Store.nearestResults_sortedByDistance isNumber, rfl⟩

end SearchRequest.SplitsInto

/-- A split search is what its queries come to, all or nothing: whatever they come to, and in whatever
order they complete, a failure among them fails the search, which is observed once, as failed and
without results. Without a failure the rows are joined in the order of the knowledge bases, put in
order where there is a vector, and cut. -/
theorem split_search_all_or_nothing {request : SearchRequest} {split : Split}
    (splits : request.SplitsInto split)
    {outcomes : List (Except Failure (List SearchResult))}
    (each : outcomes.length = request.bases.length) {order : List Nat}
    (complete : order.Perm (List.range request.bases.length)) :
    (∀ store outage,
        store.searchIn outage split.mode request =
          split.run (split.outcomes store outage) (List.range request.bases.length) ∧
        ∀ asked, Store.withThreshold asked = .ok request → asked.mode? = some split.mode →
          store.search outage asked = store.searchIn outage split.mode request) ∧
      ((∃ failure, .error failure ∈ outcomes) →
        ∃ failure, .error failure ∈ outcomes ∧
          (split.run outcomes order).outcome = .error failure ∧
          (split.run outcomes order).observation? =
            some (.search (.string split.mode.label) true false (.float 0.0) (.integer 0)) ∧
          (split.run outcomes order).observation?.bind Metrics.Observation.results? = none) ∧
      ∀ parts : List (List SearchResult), outcomes = parts.map .ok →
        (split.run outcomes order).outcome = .ok (split.wanted parts.flatten) ∧
          (split.run outcomes order).observation? =
            some (.search (.string split.mode.label) true true (.float 0.0)
              (.integer (split.wanted parts.flatten).length)) ∧
          (split.mode = .tag → split.wanted parts.flatten = parts.flatten.take request.count) ∧
          (split.mode = .vector → (∀ row ∈ parts.flatten, row.distance ≤ row.distance) →
            ∃ sorted, SortedByDistance parts.flatten sorted ∧
              split.wanted parts.flatten = sorted.take request.count) := by
  rw [← each] at complete
  refine ⟨fun store outage => ⟨?_, fun asked given called => ?_⟩, fun failed => ?_,
    fun parts allOk => ?_⟩
  · rw [splits.searchIn_eq, splits.bases_eq]
  · rw [Store.search_eq, called, given]
    rfl
  · rcases split.run_of_failure complete failed with ⟨failure, member, ran⟩
    refine ⟨failure, member, ?_⟩
    rw [ran, Retrieved.observed, splits.useParallel]
    exact ⟨rfl, rfl, rfl⟩
  · rw [split.run_of_parts complete allOk, Retrieved.observed, splits.useParallel]
    exact ⟨rfl, rfl, fun tag => splits.wanted_of_tag tag _,
      fun vector isNumber => splits.wanted_of_vector vector isNumber⟩

/-- A request for the two nearest chunks of five knowledge bases. -/
def scatteredRequest : SearchRequest where
  bases := ["a", "b", "c", "d", "e"]
  count := 2
  filters := []
  vector? := some [1.0]
  threshold? := some 1.0

def scatteredSplit : Split :=
  .nearest ⟨true, 0.8, 6, false⟩ scatteredRequest.bases ⟨[1.0], 1.0⟩ 2

def rowAt (id : String) (distance : Float) : SearchResult :=
  ⟨id, "text", "d", 0, .empty, distance, "a"⟩

def scatteredParts : List (List SearchResult) :=
  [[rowAt "1" 0.5, rowAt "2" 0.75], [rowAt "3" 0.25], [], [rowAt "4" 0.25], []]

theorem scatteredRequest_splits : scatteredRequest.SplitsInto scatteredSplit :=
  .nearest (by decide +kernel) (by decide +kernel) rfl

example : (scatteredSplit.run (scatteredParts.map .ok) [3, 1, 0, 4, 2]).outcome =
    .ok [rowAt "3" 0.25, rowAt "4" 0.25] := by
  decide +kernel

theorem scatteredRequest_all_or_nothing :
    scatteredRequest.SplitsInto scatteredSplit ∧
      (scatteredParts.map Except.ok : List (Except Failure _)).length = 5 ∧
      [3, 1, 0, 4, 2].Perm (List.range 5) ∧
      (scatteredSplit.run (scatteredParts.map .ok) [3, 1, 0, 4, 2]).outcome =
        .ok (scatteredSplit.wanted scatteredParts.flatten) ∧
      ∃ sorted, SortedByDistance scatteredParts.flatten sorted ∧
        scatteredSplit.wanted scatteredParts.flatten = sorted.take 2 := by
  have each : (scatteredParts.map Except.ok : List (Except Failure _)).length =
      scatteredRequest.bases.length := rfl
  have complete : [3, 1, 0, 4, 2].Perm (List.range 5) := by decide
  rcases (split_search_all_or_nothing scatteredRequest_splits each complete).2.2 scatteredParts
    rfl with ⟨ran, _, _, nearest⟩
  exact ⟨scatteredRequest_splits, rfl, complete, ran, nearest rfl (by decide +kernel)⟩

end HybridSearch
