import HybridSearch.Proofs.Retrieval.Runs

/-! The shape of every list of results: no more than wanted, no chunk twice, and in order of distance
where there is a vector. Different knowledge bases share no chunk, so joining the parts of a split
search repeats none. -/

namespace HybridSearch

/-- What a list of results is like in a mode, when a search goes by a threshold. -/
structure Shaped (mode : Mode) (threshold : Float) (count : Nat) (results : List SearchResult) :
    Prop where
  length_le : results.length ≤ count
  distinct : (results.map SearchResult.id).Nodup
  unranked : mode = .tag → ∀ result ∈ results, result.distance = 0.0
  ranked : mode ≠ .tag →
    results.Pairwise (fun nearer farther => nearer.distance ≤ farther.distance) ∧
      ∀ result ∈ results, result.distance < threshold

namespace Store

variable {store : Store} {nearness : Nearness}

/-! ## Joining the parts of a split search -/

theorem nodup_ids_flatMap (keyed : store.Keyed) {bases : List String} (distinct : bases.Nodup)
    (part : String → List SearchResult)
    (own : ∀ base, ((part base).map SearchResult.id).Nodup)
    (within : ∀ base, ∀ result ∈ part base,
      ∃ chunk ∈ store.chunks, chunk.base = base ∧ chunk.id = result.id) :
    ((bases.flatMap part).map SearchResult.id).Nodup := by
  rw [List.map_flatMap, List.nodup_flatMap]
  refine ⟨fun base _ => own base, distinct.imp fun {left right} different => ?_⟩
  intro id leftMember rightMember
  rcases List.mem_map.mp leftMember with ⟨leftResult, inLeft, rfl⟩
  rcases List.mem_map.mp rightMember with ⟨rightResult, inRight, sameId⟩
  rcases within left leftResult inLeft with ⟨leftChunk, leftStored, rfl, leftId⟩
  rcases within right rightResult inRight with ⟨rightChunk, rightStored, rfl, rightId⟩
  have same := keyed.eq_of_id leftStored rightStored (by rw [leftId, rightId, sameId])
  exact different (congrArg Chunk.base same)

theorem exists_stored_of_chunksIn {base : String} {clauses : List Clause} {chunk : Chunk}
    (among : chunk ∈ store.chunksIn ⟨[base], clauses⟩) (distance : Float) :
    ∃ stored ∈ store.chunks, stored.base = base ∧ stored.id = (chunk.result distance).id := by
  have visible := ((mem_chunksIn_iff ..).mp among).1
  exact ⟨chunk, visible.stored, List.mem_singleton.mp visible.requested, rfl⟩

/-! ## The three searches -/

theorem nodup_ids_tagged (keyed : store.Keyed) (scope : Scope) (limit : Nat) :
    ((store.select (.tagged scope limit)).map SearchResult.id).Nodup := by
  have all : ((byBase (store.chunksIn scope)).map Chunk.id).Nodup :=
    nodup_ids_sortBy (keyed.nodup_ids_chunksIn scope)
  rw [select, List.map_map]
  exact all.sublist ((List.take_sublist limit _).map _)

theorem distance_of_tagged {scope : Scope} {limit : Nat} :
    ∀ result ∈ store.select (.tagged scope limit), result.distance = 0.0 := by
  intro result found
  rcases exists_chunk_of_tagged found with ⟨chunk, _, rfl⟩
  rfl

theorem resultsTagged_shaped (keyed : store.Keyed) (strategy : Strategy) {scope : Scope}
    (distinct : scope.bases.Nodup) (count : Nat) (threshold : Float) :
    Shaped .tag threshold count (store.resultsTagged strategy scope count) := by
  rw [resultsTagged]
  split
  · refine ⟨List.length_take_le .., ?_, fun _ result member => ?_, fun ranked => absurd rfl ranked⟩
    · refine (nodup_ids_flatMap keyed distinct _
        (fun base => nodup_ids_tagged keyed ⟨[base], scope.clauses⟩ strategy.parallelLimit)
        fun base result found => ?_).sublist ((List.take_sublist ..).map _)
      rcases exists_chunk_of_tagged found with ⟨chunk, among, rfl⟩
      exact exists_stored_of_chunksIn among 0.0
    · rcases List.mem_flatMap.mp (List.mem_of_mem_take member) with ⟨base, _, found⟩
      exact distance_of_tagged result found
  · refine ⟨?_, nodup_ids_tagged keyed scope count, fun _ => distance_of_tagged,
      fun ranked => absurd rfl ranked⟩
    rw [select, List.length_map]
    exact List.length_take_le ..

theorem ranked_shaped {chunks : List Chunk} (distinct : (chunks.map Chunk.id).Nodup)
    (nearness : Nearness) {mode : Mode} (ranks : mode ≠ .tag) (count : Nat) :
    Shaped mode nearness.threshold count
      (((ranked nearness chunks).take count).map shown) where
  length_le := by
    rw [List.length_map]
    exact List.length_take_le ..
  distinct := nodup_ids_ranked distinct count
  unranked tag := absurd tag ranks
  ranked _ := by
    refine ⟨?_, fun result member => lt_threshold_of_shown member⟩
    rw [List.pairwise_map]
    exact (ranked_sorted nearness chunks).sublist (List.take_sublist ..)

theorem resultsNearest_shaped (keyed : store.Keyed) (strategy : Strategy) {bases : List String}
    (distinct : bases.Nodup) (nearness : Nearness) (count : Nat) :
    Shaped .vector nearness.threshold count
      (store.resultsNearest strategy bases nearness count) := by
  have ids (some : List String) : ((byBase (store.chunksIn ⟨some, []⟩)).map Chunk.id).Nodup :=
    nodup_ids_sortBy (keyed.nodup_ids_chunksIn _)
  have ranks : Mode.vector ≠ .tag := by decide
  rw [resultsNearest]
  split
  · have joined := nodup_ids_flatMap keyed distinct
      (fun base => store.select (.nearest [base] nearness strategy.parallelLimit))
      (fun base => nodup_ids_ranked (ids [base]) _) fun base result found => by
        rcases exists_chunk_of_nearest found with ⟨chunk, among, distance, _, rfl⟩
        exact exists_stored_of_chunksIn among distance
    have below := store.lt_threshold_of_flatMap bases nearness strategy.parallelLimit
    refine ⟨List.length_take_le .., ?_, fun tag => absurd tag ranks, fun _ => ⟨?_, ?_⟩⟩
    · exact (((sortBy_perm ..).map SearchResult.id).nodup_iff.mpr joined).sublist
        ((List.take_sublist ..).map _)
    · exact (nearestResults_sorted below).sublist (List.take_sublist ..)
    · exact fun result member => below result ((mem_sortBy ..).mp (List.mem_of_mem_take member))
  · exact ranked_shaped (ids bases) nearness ranks count

theorem select_nearestAmong_shaped (keyed : store.Keyed) (scope : Scope) (nearness : Nearness)
    (count : Nat) :
    Shaped .hybrid nearness.threshold count
      (store.select (.nearestAmong scope nearness count)) := by
  rw [select_nearestAmong keyed]
  exact ranked_shaped (nodup_ids_sortBy (keyed.nodup_ids_chunksIn scope)) nearness (by decide) count

/-! ## Whole searches -/

variable {request : SearchRequest} {strategy : Strategy} {mode : Mode}

theorem exists_shaped (keyed : store.Keyed) (valid : request.Valid)
    (planned : request.strategy = .ok strategy) (called : request.mode? = some mode)
    {scope : Scope} (narrowed : request.scope = .ok scope) :
    ∃ results, ComesTo (store.search · request) (request.FiniteIn store) results ∧
      Shaped mode (request.thresholdFor strategy) request.count results := by
  cases store.runsBy planned called narrowed with
  | tag scope _ narrowed runs =>
      simp only [runs]
      exact ⟨_, (store.searchTagged_comesTo ..).mono fun _ => trivial,
        resultsTagged_shaped keyed strategy
          (SearchRequest.bases_of_scope narrowed ▸ valid.bases_nodup) request.count _⟩
  | vector vector given runs =>
      simp only [runs]
      exact ⟨_, (store.searchNearest_comesTo ..).mono fun finite => (finite vector given).measures _,
        resultsNearest_shaped keyed strategy valid.bases_nodup
          ⟨vector, request.thresholdFor strategy⟩ request.count⟩
  | hybrid scope vector given _ runs =>
      simp only [runs]
      exact ⟨_, (store.searchHybrid_comesTo ..).mono fun finite =>
        (finite vector given).canAnswer_nearestAmong scope request.count,
        select_nearestAmong_shaped keyed scope ⟨vector, request.thresholdFor strategy⟩
          request.count⟩

theorem exists_scope_of_search {outage : Outage} {results : List SearchResult}
    (planned : request.strategy = .ok strategy)
    (ran : (store.search outage request).outcome = .ok results) :
    ∃ scope, request.scope = .ok scope := by
  cases narrowed : request.scope with
  | ok scope => exact ⟨scope, rfl⟩
  | error failure =>
      have filtered : request.hasFilters = true := by
        rcases (SearchRequest.scope_eq_error_iff.mp narrowed).2 with ⟨raw, member, _⟩
        exact SearchRequest.hasFilters_eq_true_iff.mpr (List.ne_nil_of_mem member)
      rw [search_of_scope_eq_error planned filtered narrowed] at ran
      cases ran

/-- Whatever is submitted, with knowledge bases named once or more often: every search with results
has them in the shape of its mode, with the threshold of the request or else that of the plan for as
many knowledge bases as are different; and there are results when the inputs call for a mode, all
filters can be read, all vectors are finite, and all sessions can be opened. -/
theorem results_shaped (store : Store) (keyed : store.Keyed) (input : Json)
    (request : SearchRequest) (accepted : SearchRequest.check input = .accepted request) :
    ∃ strategy,
      Strategy.select (SearchRequest.submittedBases input).eraseDups.length request.count =
        .ok strategy ∧
      (∀ outage results, (store.search outage request).outcome = .ok results →
        ∃ mode, request.mode? = some mode ∧
          Shaped mode (request.threshold?.getD strategy.distanceThreshold) request.count
            results) ∧
      (request.mode?.isSome = true → (∀ raw ∈ request.filters, ¬raw.Overflows) →
        request.FiniteIn store →
        ∃ results, (store.search .none request).outcome = .ok results) := by
  have valid := SearchRequest.valid_of_check accepted
  rcases valid.exists_strategy with ⟨strategy, planned⟩
  rw [← SearchRequest.bases_of_check accepted]
  refine ⟨strategy, planned, fun outage results ran => ?_, fun calls readable finite => ?_⟩
  · rcases search_eq_ok_iff.mp ran with ⟨mode, _, called, _, _⟩
    rcases exists_scope_of_search planned ran with ⟨scope, narrowed⟩
    rcases exists_shaped keyed valid planned called narrowed with ⟨found, comesTo, shaped⟩
    rw [comesTo.only outage results ran]
    exact ⟨mode, called, shaped⟩
  · rcases Option.isSome_iff_exists.mp calls with ⟨mode, called⟩
    rcases (Compiled.exists_ofFilters_eq_ok_iff request.filters).mpr readable with
      ⟨compiled, returned⟩
    have narrowed := SearchRequest.scope_eq_ok_iff.mpr ⟨compiled, returned, rfl⟩
    rcases exists_shaped keyed valid planned called narrowed with ⟨found, comesTo, _⟩
    exact ⟨found, comesTo.found finite⟩

/-- A store with one chunk in each of two knowledge bases. The nearer one is in the second. -/
def dividedStore : Store :=
  let chunk (id base : String) (vector : List Float) : Chunk :=
    { id, base, document := "d", position := 0, content := "text", tags := .empty, vector }
  { documents := [{ id := "d", base := "a", filename := "d.pdf" }]
    chunks := [chunk "1" "a" [1.0, 1.0], chunk "2" "b" [1.0]] }

/-- A request that names one of its five knowledge bases three times. -/
def repetitiveInput : Json :=
  .object
    [("knowledge_base_ids", .array (["a", "b", "a", "c", "d", "e", "a"].map .string)),
      ("query_vector", .array (unitVector.map .float))]

def repetitiveRequest : SearchRequest where
  bases := ["a", "b", "c", "d", "e"]
  count := 10
  filters := []
  vector? := some unitVector
  threshold? := none

/-- The search is split, and each of its two results is there once, the nearer one first. -/
theorem repetitiveInput_shaped : dividedStore.Keyed ∧
    SearchRequest.check repetitiveInput = .accepted repetitiveRequest ∧
    ∃ results, (dividedStore.search .none repetitiveRequest).outcome = .ok results ∧
      results.map SearchResult.id = ["2", "1"] ∧ Shaped .vector 0.8 10 results := by
  have keyed : dividedStore.Keyed := by unfold Keyed; decide +kernel
  have accepted : SearchRequest.check repetitiveInput = .accepted repetitiveRequest := by
    set_option maxRecDepth 8000 in rfl
  have plan : Strategy.select
      (SearchRequest.submittedBases repetitiveInput).eraseDups.length repetitiveRequest.count =
        .ok ⟨true, 0.8, 7, false⟩ := by decide +kernel
  have found : (dividedStore.search .none repetitiveRequest).outcome.map
      (List.map SearchResult.id) = .ok ["2", "1"] := by decide +kernel
  have finite : repetitiveRequest.FiniteIn dividedStore := by
    rintro _ ⟨⟩
    exact ⟨by decide +kernel, by decide +kernel⟩
  rcases results_shaped dividedStore keyed repetitiveInput repetitiveRequest accepted with
    ⟨strategy, planned, shaped, comes⟩
  cases planned.symm.trans plan
  rcases comes rfl nofun finite with ⟨results, ran⟩
  rcases shaped .none results ran with ⟨mode, called, shape⟩
  cases called
  rw [ran] at found
  exact ⟨keyed, accepted, results, ran, Except.ok.inj found, shape⟩

end Store

end HybridSearch
