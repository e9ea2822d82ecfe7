import HybridSearch.Proofs.Retrieval.Count
import HybridSearch.Proofs.Retrieval.Results
import HybridSearch.Proofs.Store.Ranking

/-! What a search by distance leaves out. A chunk that qualifies is only missing when the results are
as many as wanted and none of them is farther, or when the query for its own knowledge base was full
of others that are not farther. -/

namespace HybridSearch.Store

variable {store : Store} {nearness : Nearness} {chunk : Chunk} {distance : Float}

/-- The other chunks of the knowledge base of a chunk that qualify and are not farther than it. -/
def rivals (store : Store) (nearness : Nearness) (chunk : Chunk) (distance : Float) : List Chunk :=
  (store.qualifying [chunk.base] ⟨[], some nearness⟩).filter fun other =>
    other ≠ chunk && (nearDistance? nearness other).any (· ≤ distance)

theorem mem_rivals_iff {other : Chunk} :
    other ∈ store.rivals nearness chunk distance ↔
      store.Visible [chunk.base] other ∧ other ≠ chunk ∧
        ∃ closer, cosineDistance? other.vector nearness.vector = some closer ∧
          closer < nearness.threshold ∧ closer ≤ distance := by
  rw [rivals, List.mem_filter, mem_qualifying_iff, Bool.and_eq_true, decide_eq_true_iff]
  constructor
  · intro found
    rcases found with ⟨⟨visible, _, _⟩, different, nearer⟩
    rcases (Option.any_eq_true_iff_get ..).mp nearer with ⟨given, within⟩
    rcases nearDistance?_eq_some_iff.mp (Option.some_get given).symm with ⟨known, below⟩
    exact ⟨visible, different, _, known, below, of_decide_eq_true within⟩
  · intro found
    rcases found with ⟨visible, different, closer, known, below, within⟩
    have close := nearDistance?_eq_some_iff.mpr ⟨known, below⟩
    refine ⟨⟨visible, nofun, ?_⟩, different, ?_⟩
    · rintro _ ⟨⟩
      exact ⟨closer, known, below⟩
    · rw [close]
      exact decide_eq_true within

/-- What results by distance may lack. -/
def LeavesOutFarther (store : Store) (strategy : Strategy) (bases : List String)
    (nearness : Nearness) (count : Nat) (results : List SearchResult) : Prop :=
  ∀ chunk distance, store.Visible bases chunk →
    cosineDistance? chunk.vector nearness.vector = some distance →
    distance < nearness.threshold → chunk.result distance ∉ results →
      (results.length = count ∧ ∀ result ∈ results, result.distance ≤ distance) ∨
        strategy.useParallel = true ∧
          strategy.parallelLimit ≤ (store.rivals nearness chunk distance).length

theorem limit_le_length_rivals {limit : Nat}
    (found : (chunk, distance) ∈ store.rankedIn [chunk.base] nearness)
    (lost : (chunk, distance) ∉ (store.rankedIn [chunk.base] nearness).take limit) :
    limit ≤ (store.rivals nearness chunk distance).length := by
  rcases kept_of_lost (store.rankedIn_sorted _ nearness) found lost with ⟨full, nearer⟩
  have close := (mem_rankedIn_iff.mp found).2
  -- All that the query kept instead are rivals, none of them more often than it qualifies.
  have isRival : ∀ other ∈ ((store.rankedIn [chunk.base] nearness).take limit).map Prod.fst,
      (other ≠ chunk && (nearDistance? nearness other).any (· ≤ distance)) = true := by
    intro other member
    rcases List.mem_map.mp member with ⟨⟨other, closer⟩, kept, rfl⟩
    have closerKnown := (mem_rankedIn_iff.mp (List.mem_of_mem_take kept)).2
    have different : other ≠ chunk := by
      rintro rfl
      cases close.symm.trans closerKnown
      exact lost kept
    simpa [closerKnown, different] using nearer _ kept
  have among : (((store.rankedIn [chunk.base] nearness).take limit).map Prod.fst).Subperm
      (store.qualifying [chunk.base] ⟨[], some nearness⟩) :=
    ((List.take_sublist limit _).map Prod.fst).subperm.trans
      ((map_fst_ranked_perm nearness _).trans ((sortBy_perm ..).filter _)).subperm
  have counted := (among.filter fun other =>
    other ≠ chunk && (nearDistance? nearness other).any (· ≤ distance)).length_le
  rw [List.filter_eq_self.mpr isRival, List.length_map, full] at counted
  exact counted

theorem resultsNearest_leaves_out (store : Store) (strategy : Strategy) (bases : List String)
    (nearness : Nearness) (count : Nat) :
    store.LeavesOutFarther strategy bases nearness count
      (store.resultsNearest strategy bases nearness count) := by
  intro chunk distance visible known below missing
  have close := nearDistance?_eq_some_iff.mpr ⟨known, below⟩
  cases parallel : strategy.useParallel with
  | false =>
      rw [resultsNearest, parallel, if_neg Bool.false_ne_true] at missing ⊢
      rw [select_nearest] at missing ⊢
      have lost : (chunk, distance) ∉ (store.rankedIn bases nearness).take count :=
        fun kept => missing (List.mem_map_of_mem kept)
      rcases kept_of_lost (store.rankedIn_sorted _ nearness)
        (mem_rankedIn_iff.mpr ⟨visible, close⟩) lost with ⟨full, nearer⟩
      refine .inl ⟨by rw [List.length_map, full], fun result member => ?_⟩
      rcases List.mem_map.mp member with ⟨found, kept, rfl⟩
      exact nearer found kept
  | true =>
      rw [resultsNearest, parallel, if_pos rfl] at missing ⊢
      by_cases inPart : (chunk, distance) ∈
          (store.rankedIn [chunk.base] nearness).take strategy.parallelLimit
      · -- The query for its knowledge base brings the chunk in, so it is lost in the merge.
        have merged : chunk.result distance ∈ nearestResults (bases.flatMap fun base =>
            store.select (.nearest [base] nearness strategy.parallelLimit)) :=
          (mem_sortBy ..).mpr (List.mem_flatMap.mpr
            ⟨chunk.base, visible.requested, List.mem_map_of_mem (f := shown) inPart⟩)
        have sorted := nearestResults_sorted
          (store.lt_threshold_of_flatMap bases nearness strategy.parallelLimit)
        rcases kept_of_lost sorted merged missing with ⟨full, nearer⟩
        exact .inl ⟨full, nearer⟩
      · have inBase : store.Visible [chunk.base] chunk :=
          { visible with requested := List.mem_singleton.mpr rfl }
        exact .inr ⟨rfl, limit_le_length_rivals (mem_rankedIn_iff.mpr ⟨inBase, close⟩) inPart⟩

/-- A chunk that qualifies and is not among the results of a search by distance is not nearer than any
of them, and they are as many as wanted; or the search is split, and as many others of its own
knowledge base as one query may bring in are not farther. -/
theorem nearest_leaves_out_farther (store : Store) (request : SearchRequest)
    (valid : request.Valid) (vector : List Float) (given : request.vector? = some vector) :
    ∃ strategy, request.strategy = .ok strategy ∧
      (∀ threshold, request.threshold? = some threshold →
        ∃ results, ComesTo (store.searchIn · .vector request)
            (store.Measures ⟨request.bases, []⟩ vector) results ∧
          store.LeavesOutFarther strategy request.bases ⟨vector, threshold⟩ request.count
            results) ∧
      (request.filters = [] →
        ∃ results, ComesTo (store.search · request)
            (store.Measures ⟨request.bases, []⟩ vector) results ∧
          store.LeavesOutFarther strategy request.bases ⟨vector, request.thresholdFor strategy⟩
            request.count results) := by
  rcases valid.exists_strategy with ⟨strategy, planned⟩
  have filled := valid.vector_ne_nil given
  refine ⟨strategy, planned, fun threshold stated => ?_, fun unfiltered => ?_⟩
  · simp only [searchIn_vector_eq planned given filled stated]
    exact ⟨_, store.searchNearest_comesTo .., store.resultsNearest_leaves_out strategy _ _ _⟩
  · simp only [search_vector_eq unfiltered planned given filled]
    exact ⟨_, store.searchNearest_comesTo .., store.resultsNearest_leaves_out strategy _ _ _⟩

def crowdedChunk (id : String) : Chunk :=
  { id, base := "a", document := "d", position := 0, content := "text", tags := .empty
    vector := [1.0] }

def crowdedStore : Store where
  documents := [{ id := "d", base := "a", filename := "d.pdf" }]
  chunks := ["1", "2", "3", "4", "5", "6", "7", "8"].map crowdedChunk

/-- A request for eight chunks of five knowledge bases, of which each may bring in seven. -/
def crowdedRequest : SearchRequest where
  bases := ["a", "b", "c", "d", "e"]
  count := 8
  filters := []
  vector? := some unitVector
  threshold? := none

/-- The eighth chunk is left out although eight were wanted: seven others are as near. -/
theorem eighthChunk_left_out : crowdedRequest.Valid ∧
    crowdedRequest.vector? = some unitVector ∧ crowdedRequest.filters = [] ∧
    (crowdedStore.search .none crowdedRequest).outcome =
      .ok (["1", "2", "3", "4", "5", "6", "7"].map fun id => (crowdedChunk id).result 0.0) ∧
    7 ≤ (crowdedStore.rivals ⟨unitVector, 0.8⟩ (crowdedChunk "8") 0.0).length := by
  have valid : crowdedRequest.Valid :=
    ⟨by decide, by decide, by decide, by decide, by rintro _ ⟨⟩; exact length_unitVector⟩
  have found : (crowdedStore.search .none crowdedRequest).outcome =
      .ok (["1", "2", "3", "4", "5", "6", "7"].map fun id => (crowdedChunk id).result 0.0) := by
    decide +kernel
  have plan : crowdedRequest.strategy = .ok ⟨true, 0.8, 7, false⟩ := by decide +kernel
  have visible : crowdedStore.Visible crowdedRequest.bases (crowdedChunk "8") :=
    ⟨by decide +kernel, rfl, ⟨_, List.mem_singleton.mpr rfl, rfl, rfl⟩, by decide⟩
  have known : cosineDistance? (crowdedChunk "8").vector unitVector = some 0.0 := by
    decide +kernel
  rcases nearest_leaves_out_farther crowdedStore crowdedRequest valid unitVector rfl with
    ⟨strategy, planned, _, whole⟩
  cases planned.symm.trans plan
  rcases whole rfl with ⟨results, comesTo, leavesOut⟩
  cases comesTo.only .none _ found
  rcases leavesOut (crowdedChunk "8") 0.0 visible known (by decide +kernel) (by decide +kernel) with
    ⟨full, _⟩ | ⟨_, crowded⟩
  · cases full
  · exact ⟨valid, rfl, rfl, found, crowded⟩

end HybridSearch.Store
