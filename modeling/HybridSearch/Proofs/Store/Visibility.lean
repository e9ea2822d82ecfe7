import Mathlib.Data.List.Nodup
import HybridSearch.Proofs.Sorting
import HybridSearch.Store.Select

/-! What a query may find: chunks that can be seen, in the knowledge bases that are asked for, and
only those that satisfy the clauses and lie near enough. -/

namespace HybridSearch

/-- Tags with every truth value set. -/
def Tags.flagged : Tags :=
  { Tags.empty with booleans := Vector.replicate 3 (some true) }

namespace Store

/-- A chunk of the store that can be seen in some knowledge bases: it is enabled, there is a document
of it that is not deleted, and it belongs to one of the knowledge bases. -/
structure Visible (store : Store) (bases : List String) (chunk : Chunk) : Prop where
  stored : chunk ∈ store.chunks
  enabled : chunk.enabled = true
  live : ∃ document ∈ store.documents, document.id = chunk.document ∧ document.deleted = false
  requested : chunk.base ∈ bases

/-- No two chunks have one identifier. It is the key by which the store holds them. -/
def Keyed (store : Store) : Prop :=
  (store.chunks.map Chunk.id).Nodup

theorem Keyed.eq_of_id {store : Store} (keyed : store.Keyed) {left right : Chunk}
    (leftStored : left ∈ store.chunks) (rightStored : right ∈ store.chunks)
    (same : left.id = right.id) : left = right :=
  List.inj_on_of_nodup_map keyed leftStored rightStored same

theorem isSearchable_iff (store : Store) (chunk : Chunk) :
    store.isSearchable chunk = true ↔ chunk.enabled = true ∧
      ∃ document ∈ store.documents, document.id = chunk.document ∧ document.deleted = false := by
  simp [isSearchable, hasLiveDocument]

theorem inScope_iff (store : Store) (scope : Scope) (chunk : Chunk) :
    store.inScope scope chunk = true ↔ chunk.base ∈ scope.bases ∧
      ∀ clause ∈ scope.clauses, clause.holds store.dayOf? chunk.tags = some true := by
  simp [inScope, Truth.isTrue]

theorem mem_chunksIn_iff (store : Store) (scope : Scope) (chunk : Chunk) :
    chunk ∈ store.chunksIn scope ↔ store.Visible scope.bases chunk ∧
      ∀ clause ∈ scope.clauses, clause.holds store.dayOf? chunk.tags = some true := by
  rw [chunksIn, List.mem_filter, Bool.and_eq_true, isSearchable_iff, inScope_iff]
  constructor
  · intro visible
    rcases visible with ⟨stored, ⟨enabled, live⟩, requested, holds⟩
    exact ⟨⟨stored, enabled, live, requested⟩, holds⟩
  · intro found
    rcases found with ⟨visible, holds⟩
    exact ⟨visible.stored, ⟨visible.enabled, visible.live⟩, visible.requested, holds⟩

/-- The distances from a vector can be taken for all chunks that can be seen in a scope and satisfy its
clauses: neither such a chunk nor the vector has a component that is not finite. Without such a chunk
no distance is taken, and the vector may be any. -/
def Measures (store : Store) (scope : Scope) (vector : List Float) : Prop :=
  ∀ chunk, store.Visible scope.bases chunk →
    (∀ clause ∈ scope.clauses, clause.holds store.dayOf? chunk.tags = some true) →
      (∀ component ∈ chunk.vector, component.isFinite = true) ∧
        ∀ component ∈ vector, component.isFinite = true

theorem isMeasurable_iff (nearness : Nearness) (chunk : Chunk) :
    isMeasurable nearness chunk = true ↔
      (∀ component ∈ chunk.vector, component.isFinite = true) ∧
        ∀ component ∈ nearness.vector, component.isFinite = true := by
  simp [isMeasurable, isFiniteVector]

theorem all_isMeasurable_iff (store : Store) (scope : Scope) (nearness : Nearness) :
    (store.chunksIn scope).all (isMeasurable nearness) = true ↔
      store.Measures scope nearness.vector := by
  simp only [List.all_eq_true, mem_chunksIn_iff, isMeasurable_iff, and_imp, Measures]

theorem canAnswer_nearest_iff {store : Store} {bases : List String} {nearness : Nearness}
    {limit : Nat} :
    store.canAnswer (.nearest bases nearness limit) = true ↔
      store.Measures ⟨bases, []⟩ nearness.vector :=
  store.all_isMeasurable_iff ⟨bases, []⟩ nearness

/-- The distances in some knowledge bases can be taken exactly when they can in each of them. -/
theorem measures_iff_forall_base {store : Store} {bases : List String} {vector : List Float} :
    store.Measures ⟨bases, []⟩ vector ↔ ∀ base ∈ bases, store.Measures ⟨[base], []⟩ vector := by
  constructor
  · intro measures base listed chunk visible holds
    have within : chunk.base ∈ bases := by
      rw [List.mem_singleton.mp visible.requested]
      exact listed
    exact measures chunk { visible with requested := within } holds
  · intro measures chunk visible holds
    have inOwn : store.Visible [chunk.base] chunk :=
      { visible with requested := List.mem_singleton.mpr rfl }
    exact measures chunk.base visible.requested chunk inOwn holds

/-- All components of all vectors are finite, of those in the store and of one that is searched by. -/
structure FiniteWith (store : Store) (vector : List Float) : Prop where
  stored : ∀ chunk ∈ store.chunks, ∀ component ∈ chunk.vector, component.isFinite = true
  given : ∀ component ∈ vector, component.isFinite = true

theorem FiniteWith.measures {store : Store} {vector : List Float}
    (finite : store.FiniteWith vector) (scope : Scope) : store.Measures scope vector :=
  fun chunk visible _ => ⟨finite.stored chunk visible.stored, finite.given⟩

theorem FiniteWith.canAnswer_nearestAmong {store : Store} {nearness : Nearness}
    (finite : store.FiniteWith nearness.vector) (scope : Scope) (limit : Nat) :
    store.canAnswer (.nearestAmong scope nearness limit) = true := by
  refine List.all_eq_true.mpr fun chunk ranked => ?_
  rw [isMeasurable_iff]
  exact ⟨finite.stored chunk (List.mem_filter.mp ranked).1, finite.given⟩

theorem nearDistance?_eq_some_iff {nearness : Nearness} {chunk : Chunk} {distance : Float} :
    nearDistance? nearness chunk = some distance ↔
      cosineDistance? chunk.vector nearness.vector = some distance ∧
        distance < nearness.threshold := by
  simp [nearDistance?, Option.filter_eq_some_iff]

theorem mem_near_iff (nearness : Nearness) (chunks : List Chunk) (chunk : Chunk)
    (distance : Float) :
    (chunk, distance) ∈ near nearness chunks ↔
      chunk ∈ chunks ∧ nearDistance? nearness chunk = some distance := by
  simp [near]

theorem exists_chunk_of_tagged {store : Store} {scope : Scope} {limit : Nat}
    {result : SearchResult} (found : result ∈ store.select (.tagged scope limit)) :
    ∃ chunk ∈ store.chunksIn scope, result = chunk.result 0.0 := by
  rcases List.mem_map.mp found with ⟨chunk, member, rfl⟩
  exact ⟨chunk, (mem_sortBy ..).mp (List.mem_of_mem_take member), rfl⟩

end Store

end HybridSearch
