import HybridSearch.Proofs.Retrieval.Results
import HybridSearch.Proofs.Store.Ranking

/-! A search by tags and distance first looks for candidates and then ranks them, by a query that
looks at the whole store again. What it comes to is what one look would find: all chunks of its scope
that are near enough are put in order, and only then cut. It fails where a distance cannot be taken,
and then there are candidates. -/

namespace HybridSearch.Store

/-- One chunk comes before another one: it is nearer, or as near and before it by its identifier, the
order in which the ranking looks at chunks. -/
def Closer (nearer farther : Chunk × Float) : Prop :=
  nearer.2 ≤ farther.2 ∧ (farther.2 ≤ nearer.2 → nearer.1.id < farther.1.id)

instance : Std.Irrefl Closer where
  irrefl _ closer := String.lt_irrefl _ (closer.2 closer.1)

instance : Std.Antisymm Closer where
  antisymm _ _ closer farther :=
    absurd (closer.2 farther.1) (String.lt_asymm (farther.2 closer.1))

/-- A ranking of the chunks of a scope by their distance from a vector: each that can be seen,
satisfies the clauses and lies below the threshold is there, and nothing else, in order. -/
structure Ranks (store : Store) (scope : Scope) (nearness : Nearness)
    (ranking : List (Chunk × Float)) : Prop where
  complete : ∀ chunk distance, (chunk, distance) ∈ ranking ↔
    store.Visible scope.bases chunk ∧
      (∀ clause ∈ scope.clauses, clause.holds store.dayOf? chunk.tags = some true) ∧
      cosineDistance? chunk.vector nearness.vector = some distance ∧
      distance < nearness.threshold
  ordered : ranking.Pairwise Closer

variable {store : Store} {scope : Scope} {nearness : Nearness}

theorem Ranks.unique {ranking other : List (Chunk × Float)}
    (ranks : store.Ranks scope nearness ranking) (alsoRanks : store.Ranks scope nearness other) :
    other = ranking := by
  apply List.Pairwise.eq_of_mem_iff alsoRanks.ordered ranks.ordered
  intro found
  rw [alsoRanks.complete found.1 found.2, ranks.complete found.1 found.2]

theorem byId_pairwise {chunks : List Chunk} (distinct : (chunks.map Chunk.id).Nodup) :
    (byId chunks).Pairwise fun left right => left.id < right.id := by
  have chains : ∀ first second third : Chunk, decide (first.id ≤ second.id) = true →
      decide (second.id ≤ third.id) = true → decide (first.id ≤ third.id) = true := by
    intro first second third before behind
    exact decide_eq_true (String.le_trans (of_decide_eq_true before) (of_decide_eq_true behind))
  have total : ∀ left ∈ chunks, ∀ right ∈ chunks, decide (left.id ≤ right.id) = true ∨
      decide (right.id ≤ left.id) = true := by
    intro left _ right _
    simpa using String.le_total left.id right.id
  -- Identifiers do not repeat, so no two chunks tie.
  have different : chunks.Pairwise fun left right => left.id ≠ right.id :=
    List.pairwise_map.mp distinct
  refine (pairwise_sortBy chains total different).imp fun {left right} stands => ?_
  have before := of_decide_eq_true stands.1
  apply String.not_le.mp
  intro behind
  exact stands.2 (decide_eq_true behind) (String.le_antisymm before behind)

theorem ranked_ranks (keyed : store.Keyed) (scope : Scope) (nearness : Nearness) :
    store.Ranks scope nearness (ranked nearness (byId (store.chunksIn scope))) where
  complete chunk distance := by
    rw [mem_ranked_iff, byId, mem_sortBy, mem_chunksIn_iff, nearDistance?_eq_some_iff, and_assoc]
  ordered := ranked_pairwise (byId_pairwise (keyed.nodup_ids_chunksIn scope))

theorem Ranks.select_nearestAmong (keyed : store.Keyed) {ranking : List (Chunk × Float)}
    (ranks : store.Ranks scope nearness ranking) (count : Nat) :
    store.select (.nearestAmong scope nearness count) = (ranking.take count).map shown := by
  rw [Store.select_nearestAmong keyed, ranks.unique (ranked_ranks keyed scope nearness)]

/-- Where there are no candidates the query that ranks would be answered, and find nothing. -/
theorem fetch_nearestAmong_of_no_candidates (empty : store.candidates scope = [])
    (nearness : Nearness) (count session : Nat) :
    store.fetch .none session (.nearestAmong scope nearness count) = .ok [] := by
  rw [fetch_none, if_pos (store.canAnswer_nearestAmong_of_no_candidates empty nearness count),
    store.select_nearestAmong_of_no_candidates empty]

theorem searchHybrid_comesTo_ranking (keyed : store.Keyed) (strategy : Strategy)
    {ranking : List (Chunk × Float)} (ranks : store.Ranks scope nearness ranking) (count : Nat) :
    ComesTo (store.searchHybrid · strategy scope nearness count)
      (store.Measures scope nearness.vector) ((ranking.take count).map shown) := by
  rw [← ranks.select_nearestAmong keyed]
  exact (store.searchHybrid_comesTo ..).mono (canAnswer_nearestAmong_iff keyed).mpr

theorem searchHybrid_of_not_measures (keyed : store.Keyed) (strategy : Strategy) (count : Nat)
    (unmeasured : ¬store.Measures scope nearness.vector) :
    (store.searchHybrid .none strategy scope nearness count).outcome = .error .unmeasurable := by
  apply searchHybrid_of_unmeasurable
  rw [← Bool.not_eq_true, canAnswer_nearestAmong_iff keyed]
  exact unmeasured

/-- A store in which two of four chunks are left by the filter of a request and near enough. They lie
equally far, and the one that was inserted later has the first identifier. -/
def tiedStore : Store :=
  let chunk (id base : String) (tags : Tags) (component : Float) : Chunk :=
    { id, base, document := "d", position := 0, content := "text", tags, vector := [component] }
  { documents := [{ id := "d", base := "a", filename := "d.pdf" }]
    chunks :=
      [chunk "2" "a" .flagged 1.0, chunk "3" "a" .flagged (-1.0), chunk "4" "a" .empty 1.0,
        chunk "1" "b" .flagged 1.0] }

/-- A request for five knowledge bases, which other searches would split. -/
def tiedRequest : SearchRequest where
  bases := ["a", "b", "c", "d", "e"]
  count := 10
  filters := [⟨"boolean3", "boolean", "eq", .bool true, .null⟩]
  vector? := some unitVector
  threshold? := none

/-- A vector of which one component is infinite. -/
def boundlessVector : List Float :=
  Number.infinity :: List.replicate 1535 0.0

/-- A request like the one before, for a vector that no distance can be taken from. -/
def boundlessRequest : SearchRequest :=
  { tiedRequest with vector? := some boundlessVector }

end HybridSearch.Store
