import HybridSearch.Proofs.Number.Order
import HybridSearch.Proofs.Sorting
import HybridSearch.Proofs.Store.Visibility

/-! Ranking by distance. All distances that are found lie below a threshold, so they are numbers and
can be put in order; chunks at one distance stay as they came. -/

namespace HybridSearch

theorem pairwise_sortBy_number {α : Type} {number : α → Float} {values : List α}
    (isNumber : ∀ value ∈ values, number value ≤ number value) {tie : α → α → Prop}
    (came : values.Pairwise tie) :
    (sortBy (fun left right => number left ≤ number right) values).Pairwise fun left right =>
      number left ≤ number right ∧ (number right ≤ number left → tie left right) := by
  have chains : ∀ first second third, decide (number first ≤ number second) = true →
      decide (number second ≤ number third) = true →
        decide (number first ≤ number third) = true := by
    intro first second third below above
    exact decide_eq_true (Number.le_trans (of_decide_eq_true below) (of_decide_eq_true above))
  have total : ∀ left ∈ values, ∀ right ∈ values, decide (number left ≤ number right) = true ∨
      decide (number right ≤ number left) = true := by
    intro left leftMember right rightMember
    simpa using Number.le_total (isNumber left leftMember) (isNumber right rightMember)
  exact (pairwise_sortBy chains total came).imp fun stands =>
    ⟨of_decide_eq_true stands.1, fun below => stands.2 (decide_eq_true below)⟩

namespace Store

/-- The chunks that lie near with their distances, the nearest first. -/
def ranked (nearness : Nearness) (chunks : List Chunk) : List (Chunk × Float) :=
  nearestFirst (near nearness chunks)

def shown (found : Chunk × Float) : SearchResult :=
  found.1.result found.2

section Ranked

variable {nearness : Nearness} {chunks : List Chunk}

theorem mem_ranked_iff {chunk : Chunk} {distance : Float} :
    (chunk, distance) ∈ ranked nearness chunks ↔
      chunk ∈ chunks ∧ nearDistance? nearness chunk = some distance := by
  rw [ranked, nearestFirst, mem_sortBy, mem_near_iff]

theorem lt_threshold_of_mem_ranked {found : Chunk × Float}
    (member : found ∈ ranked nearness chunks) : found.2 < nearness.threshold :=
  (nearDistance?_eq_some_iff.mp (mem_ranked_iff.mp member).2).2

theorem near_pairwise {tie : Chunk → Chunk → Prop} (came : chunks.Pairwise tie) :
    (near nearness chunks).Pairwise fun left right => tie left.1 right.1 := by
  rw [near, List.pairwise_filterMap]
  refine came.imp fun {left right} tied found isFound other isOther => ?_
  rcases Option.map_eq_some_iff.mp isFound with ⟨_, _, rfl⟩
  rcases Option.map_eq_some_iff.mp isOther with ⟨_, _, rfl⟩
  exact tied

theorem ranked_pairwise {tie : Chunk → Chunk → Prop} (came : chunks.Pairwise tie) :
    (ranked nearness chunks).Pairwise fun nearer farther =>
      nearer.2 ≤ farther.2 ∧ (farther.2 ≤ nearer.2 → tie nearer.1 farther.1) := by
  have isNumber : ∀ found ∈ near nearness chunks, found.2 ≤ found.2 := by
    intro found member
    exact Number.le_self_of_lt (lt_threshold_of_mem_ranked ((mem_sortBy ..).mpr member))
  exact pairwise_sortBy_number isNumber (near_pairwise came)

theorem ranked_sorted (nearness : Nearness) (chunks : List Chunk) :
    (ranked nearness chunks).Pairwise fun nearer farther => nearer.2 ≤ farther.2 :=
  have came : chunks.Pairwise fun _ _ => True := List.pairwise_of_forall fun _ _ => trivial
  (ranked_pairwise came).imp And.left

theorem map_fst_near (nearness : Nearness) (chunks : List Chunk) :
    (near nearness chunks).map Prod.fst =
      chunks.filter fun chunk => (nearDistance? nearness chunk).isSome := by
  induction chunks with
  | nil => rfl
  | cons chunk rest induction =>
      rw [near, List.filterMap_cons, List.filter_cons]
      cases nearDistance? nearness chunk with
      | none => exact induction
      | some distance => exact congrArg (chunk :: ·) induction

theorem map_fst_ranked_perm (nearness : Nearness) (chunks : List Chunk) :
    ((ranked nearness chunks).map Prod.fst).Perm
      (chunks.filter fun chunk => (nearDistance? nearness chunk).isSome) := by
  rw [← map_fst_near]
  exact (sortBy_perm ..).map Prod.fst

theorem exists_chunk_of_shown {limit : Nat} {result : SearchResult}
    (member : result ∈ ((ranked nearness chunks).take limit).map shown) :
    ∃ chunk ∈ chunks, ∃ distance,
      nearDistance? nearness chunk = some distance ∧ result = chunk.result distance := by
  rcases List.mem_map.mp member with ⟨⟨chunk, distance⟩, kept, rfl⟩
  rcases mem_ranked_iff.mp (List.mem_of_mem_take kept) with ⟨among, near⟩
  exact ⟨chunk, among, distance, near, rfl⟩

theorem lt_threshold_of_shown {limit : Nat} {result : SearchResult}
    (member : result ∈ ((ranked nearness chunks).take limit).map shown) :
    result.distance < nearness.threshold := by
  rcases exists_chunk_of_shown member with ⟨chunk, _, distance, near, rfl⟩
  exact (nearDistance?_eq_some_iff.mp near).2

/-! ## Queries that rank -/

variable {store : Store}

/-- What the query for some knowledge bases finds before it is cut. -/
def rankedIn (store : Store) (bases : List String) (nearness : Nearness) : List (Chunk × Float) :=
  ranked nearness (byBase (store.chunksIn ⟨bases, []⟩))

theorem mem_rankedIn_iff {bases : List String} {chunk : Chunk} {distance : Float} :
    (chunk, distance) ∈ store.rankedIn bases nearness ↔ store.Visible bases chunk ∧
      nearDistance? nearness chunk = some distance := by
  rw [rankedIn, mem_ranked_iff, byBase, mem_sortBy, mem_chunksIn_iff]
  simp

theorem rankedIn_sorted (store : Store) (bases : List String) (nearness : Nearness) :
    (store.rankedIn bases nearness).Pairwise fun nearer farther => nearer.2 ≤ farther.2 :=
  ranked_sorted nearness _

theorem select_nearest (store : Store) (bases : List String) (nearness : Nearness) (limit : Nat) :
    store.select (.nearest bases nearness limit) =
      ((store.rankedIn bases nearness).take limit).map shown :=
  rfl

theorem exists_chunk_of_nearest {bases : List String} {limit : Nat} {result : SearchResult}
    (found : result ∈ store.select (.nearest bases nearness limit)) :
    ∃ chunk ∈ store.chunksIn ⟨bases, []⟩, ∃ distance,
      nearDistance? nearness chunk = some distance ∧ result = chunk.result distance := by
  rcases exists_chunk_of_shown found with ⟨chunk, among, near⟩
  exact ⟨chunk, (mem_sortBy ..).mp among, near⟩

/-- The outer query takes chunks by identifiers. Where these are keys that is no wider than the
scope. -/
theorem among_eq_chunksIn (keyed : store.Keyed) (scope : Scope) :
    store.among scope = store.chunksIn scope := by
  refine List.filter_congr fun chunk stored => ?_
  cases searchable : store.isSearchable chunk with
  | false => rfl
  | true =>
      rw [Bool.true_and, Bool.true_and, Bool.eq_iff_iff, decide_eq_true_iff]
      constructor
      · intro listed
        rcases List.mem_map.mp listed with ⟨candidate, among, sameId⟩
        rcases List.mem_filter.mp among with ⟨candidateStored, found⟩
        cases keyed.eq_of_id stored candidateStored sameId.symm
        exact (Bool.and_eq_true_iff.mp found).2
      · intro inScope
        refine List.mem_map_of_mem (List.mem_filter.mpr ⟨stored, ?_⟩)
        rw [searchable, inScope]
        rfl

theorem select_nearestAmong (keyed : store.Keyed) (scope : Scope) (nearness : Nearness)
    (limit : Nat) :
    store.select (.nearestAmong scope nearness limit) =
      ((ranked nearness (byId (store.chunksIn scope))).take limit).map shown := by
  rw [select, among_eq_chunksIn keyed]
  rfl

/-- A ranking can be answered exactly when the distances of all that its scope holds can be taken. -/
theorem canAnswer_nearestAmong_iff (keyed : store.Keyed) {scope : Scope} {limit : Nat} :
    store.canAnswer (.nearestAmong scope nearness limit) = true ↔
      store.Measures scope nearness.vector := by
  rw [canAnswer, among_eq_chunksIn keyed, all_isMeasurable_iff]

theorem exists_chunk_of_nearestAmong (keyed : store.Keyed) {scope : Scope} {limit : Nat}
    {result : SearchResult} (found : result ∈ store.select (.nearestAmong scope nearness limit)) :
    ∃ chunk ∈ store.chunksIn scope, ∃ distance,
      nearDistance? nearness chunk = some distance ∧ result = chunk.result distance := by
  rw [select_nearestAmong keyed] at found
  rcases exists_chunk_of_shown found with ⟨chunk, among, near⟩
  exact ⟨chunk, (mem_sortBy ..).mp among, near⟩

theorem select_nearestAmong_of_no_candidates (store : Store) {scope : Scope}
    (none : store.candidates scope = []) (nearness : Nearness) (limit : Nat) :
    store.select (.nearestAmong scope nearness limit) = [] := by
  simp [select, among, none, byId, near, nearestFirst, sortBy]

theorem canAnswer_nearestAmong_of_no_candidates (store : Store) {scope : Scope}
    (none : store.candidates scope = []) (nearness : Nearness) (limit : Nat) :
    store.canAnswer (.nearestAmong scope nearness limit) = true := by
  simp [canAnswer, among, none]

/-! ## Identifiers -/

theorem Keyed.nodup_ids_chunksIn (keyed : store.Keyed) (scope : Scope) :
    ((store.chunksIn scope).map Chunk.id).Nodup :=
  keyed.sublist (List.filter_sublist.map _)

theorem nodup_ids_sortBy {mayPrecede : Chunk → Chunk → Bool}
    (distinct : (chunks.map Chunk.id).Nodup) :
    ((sortBy mayPrecede chunks).map Chunk.id).Nodup :=
  ((sortBy_perm mayPrecede chunks).map Chunk.id).nodup_iff.mpr distinct

theorem map_id_map_shown (found : List (Chunk × Float)) :
    (found.map shown).map SearchResult.id = (found.map Prod.fst).map Chunk.id := by
  rw [List.map_map, List.map_map]
  rfl

theorem nodup_ids_ranked (distinct : (chunks.map Chunk.id).Nodup) (limit : Nat) :
    ((((ranked nearness chunks).take limit).map shown).map SearchResult.id).Nodup := by
  rw [map_id_map_shown]
  have all : (((ranked nearness chunks).map Prod.fst).map Chunk.id).Nodup :=
    ((map_fst_ranked_perm nearness chunks).map Chunk.id).nodup_iff.mpr
      (distinct.sublist (List.filter_sublist.map _))
  exact all.sublist (((List.take_sublist limit _).map _).map _)

end Ranked

end Store

end HybridSearch
