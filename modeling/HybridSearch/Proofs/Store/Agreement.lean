import HybridSearch.Proofs.Store.Ranking
import HybridSearch.Proofs.Store.Visibility

/-! Two stores that agree on what can be seen in some knowledge bases. They may differ in everything
else, and no query for these knowledge bases tells them apart. -/

namespace HybridSearch

def Selection.bases : Selection → List String
  | tagged scope _ => scope.bases
  | nearest bases _ _ => bases
  | candidates scope => scope.bases
  | nearestAmong scope _ _ => scope.bases

namespace Store

/-- The chunks that can be seen in some knowledge bases, in the order of the store. -/
def visibleChunks (store : Store) (bases : List String) : List Chunk :=
  store.chunks.filter fun chunk => store.isSearchable chunk && chunk.base ∈ bases

/-- A document that is not deleted has an identifier and a filename. -/
def Names (store : Store) (id filename : String) : Prop :=
  ∃ document ∈ store.documents,
    document.id = id ∧ document.filename = filename ∧ document.deleted = false

/-- What can be seen in some knowledge bases is the same in two stores that take timestamps to lie on
the same days: the chunks, in one order, and the names of their documents. -/
structure AgreesOn (left right : Store) (bases : List String) : Prop where
  days : left.dayOf? = right.dayOf?
  chunks : left.visibleChunks bases = right.visibleChunks bases
  names : ∀ chunk ∈ left.visibleChunks bases, ∀ filename,
    left.Names chunk.document filename ↔ right.Names chunk.document filename

theorem mem_visibleChunks_iff {store : Store} {bases : List String} {chunk : Chunk} :
    chunk ∈ store.visibleChunks bases ↔ store.Visible bases chunk := by
  rw [visibleChunks, List.mem_filter, Bool.and_eq_true, isSearchable_iff, decide_eq_true_iff]
  constructor
  · intro found
    rcases found with ⟨stored, ⟨enabled, live⟩, requested⟩
    exact ⟨stored, enabled, live, requested⟩
  · intro visible
    exact ⟨visible.stored, ⟨visible.enabled, visible.live⟩, visible.requested⟩

theorem chunksIn_eq_filter (store : Store) {scope : Scope} {bases : List String}
    (within : scope.bases ⊆ bases) :
    store.chunksIn scope = (store.visibleChunks bases).filter (store.inScope scope) := by
  rw [chunksIn, visibleChunks, List.filter_filter]
  refine List.filter_congr fun chunk _ => ?_
  cases found : store.inScope scope chunk with
  | false => rw [Bool.and_false, Bool.false_and]
  | true =>
      have requested : chunk.base ∈ bases := within ((store.inScope_iff scope chunk).mp found).1
      rw [decide_eq_true requested, Bool.and_true, Bool.true_and]

/-! ## Queries -/

variable {left right : Store} {bases : List String}

theorem AgreesOn.inScope_eq (agrees : left.AgreesOn right bases) (scope : Scope) :
    left.inScope scope = right.inScope scope := by
  funext chunk
  rw [inScope, inScope, agrees.days]

theorem AgreesOn.chunksIn_eq (agrees : left.AgreesOn right bases) (scope : Scope)
    (within : scope.bases ⊆ bases) : left.chunksIn scope = right.chunksIn scope := by
  rw [chunksIn_eq_filter left within, chunksIn_eq_filter right within, agrees.chunks,
    agrees.inScope_eq]

theorem AgreesOn.candidates_eq (agrees : left.AgreesOn right bases) (scope : Scope)
    (within : scope.bases ⊆ bases) : left.candidates scope = right.candidates scope := by
  rw [candidates, candidates, agrees.chunksIn_eq scope within]

theorem AgreesOn.select_eq (agrees : left.AgreesOn right bases) (leftKeyed : left.Keyed)
    (rightKeyed : right.Keyed) (selection : Selection) (within : selection.bases ⊆ bases) :
    left.select selection = right.select selection := by
  cases selection with
  | tagged scope limit => rw [select, select, agrees.chunksIn_eq scope within]
  | nearest bases nearness limit =>
      rw [select, select, agrees.chunksIn_eq ⟨bases, []⟩ within]
  | candidates scope => rfl
  | nearestAmong scope nearness limit =>
      rw [select_nearestAmong leftKeyed, select_nearestAmong rightKeyed,
        agrees.chunksIn_eq scope within]

theorem AgreesOn.canAnswer_eq (agrees : left.AgreesOn right bases) (leftKeyed : left.Keyed)
    (rightKeyed : right.Keyed) (selection : Selection) (within : selection.bases ⊆ bases) :
    left.canAnswer selection = right.canAnswer selection := by
  cases selection with
  | tagged scope limit => rfl
  | nearest bases nearness limit =>
      rw [canAnswer, canAnswer, agrees.chunksIn_eq ⟨bases, []⟩ within]
  | candidates scope => rfl
  | nearestAmong scope nearness limit =>
      rw [canAnswer, canAnswer, among_eq_chunksIn leftKeyed, among_eq_chunksIn rightKeyed,
        agrees.chunksIn_eq scope within]

/-! ## Names -/

/-- No two chunks and no two documents have one identifier. -/
structure KeyedThroughout (store : Store) : Prop where
  chunks : store.Keyed
  documents : (store.documents.map Document.id).Nodup

theorem lookup_eq_some_iff_mem {α : Type} {entries : List (String × α)} {key : String} {value : α}
    (distinct : (entries.map Prod.fst).Nodup) :
    entries.lookup key = some value ↔ (key, value) ∈ entries := by
  induction entries with
  | nil => simp
  | cons entry rest induction =>
      rcases entry with ⟨first, firstValue⟩
      rw [List.map_cons, List.nodup_cons] at distinct
      rw [List.lookup_cons, List.mem_cons, Prod.mk.injEq]
      by_cases same : key = first
      · subst same
        have once : (key, value) ∉ rest :=
          fun member => distinct.1 (List.mem_map.mpr ⟨_, member, rfl⟩)
        simp [once, eq_comm]
      · have different : (key == first) = false := by simpa using same
        simp [different, same, induction distinct.2]

theorem mem_documentNames_iff {store : Store} {ids : List String} {id filename : String} :
    (id, filename) ∈ store.documentNames ids ↔ id ∈ ids ∧ store.Names id filename := by
  rw [documentNames, List.mem_map]
  constructor
  · intro listed
    rcases listed with ⟨document, member, equal⟩
    cases equal
    rw [List.mem_filter, Bool.and_eq_true, decide_eq_true_iff, Bool.not_eq_true'] at member
    exact ⟨member.2.1, document, member.1, rfl, rfl, member.2.2⟩
  · intro named
    rcases named with ⟨listed, document, stored, rfl, rfl, live⟩
    refine ⟨document, List.mem_filter.mpr ⟨stored, ?_⟩, rfl⟩
    rw [decide_eq_true listed, live]
    rfl

theorem KeyedThroughout.lookup_eq_some_iff {store : Store} (keyed : store.KeyedThroughout)
    {ids : List String} {id filename : String} :
    (store.documentNames ids).lookup id = some filename ↔
      id ∈ ids ∧ store.Names id filename := by
  have distinct : ((store.documentNames ids).map Prod.fst).Nodup := by
    rw [documentNames, List.map_map]
    exact keyed.documents.sublist (List.filter_sublist.map _)
  rw [lookup_eq_some_iff_mem distinct, mem_documentNames_iff]

theorem AgreesOn.lookup_eq (agrees : left.AgreesOn right bases)
    (leftKeyed : left.KeyedThroughout) (rightKeyed : right.KeyedThroughout) {chunk : Chunk}
    (visible : left.Visible bases chunk) (ids : List String) :
    (left.documentNames ids).lookup chunk.document =
      (right.documentNames ids).lookup chunk.document := by
  refine Option.ext fun filename => ?_
  rw [leftKeyed.lookup_eq_some_iff, rightKeyed.lookup_eq_some_iff,
    agrees.names chunk (mem_visibleChunks_iff.mpr visible)]

end Store

end HybridSearch
