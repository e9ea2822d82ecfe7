import Mathlib.Data.List.Perm.Subperm
import HybridSearch.Proofs.Distinct
import HybridSearch.Proofs.Rerank.Report
import HybridSearch.Proofs.Sorting

/-! Reranking respects the scores. An answer comes from outside and may repeat documents, name some that
were never sent, and hold anything for a score. What it says of a document is the best score that one
of its items gives it. The order of these scores, and of the answer where they are equal, decides which
results are kept and how they stand. -/

namespace HybridSearch.Rerank

/-- What counts of an item of an answer: its score and its place. -/
structure Standing where
  place : Nat
  score : Float
deriving Repr, DecidableEq

namespace Standing

/-- The better one of two items: its score is higher, or as high and it stands first. -/
def Ahead (better worse : Standing) : Prop :=
  worse.score ≤ better.score ∧ (better.score ≤ worse.score → better.place < worse.place)

/-- An item of an answer has this standing. -/
def Among (standing : Standing) (items : List Json) : Prop :=
  ∃ item, items[standing.place]? = some item ∧ HasScore item standing.score

/-- An item of an answer names a document and has this standing. -/
def Gives (standing : Standing) (items : List Json) (position : Nat) : Prop :=
  ∃ item, items[standing.place]? = some item ∧ HasScore item standing.score ∧
    item.member? "index" = some (.integer position)

end Standing

/-- The best score that an answer gives a document, where it first gives it. -/
structure Best (items : List Json) (position : Nat) (best : Standing) : Prop where
  given : best.Gives items position
  highest : ∀ other : Standing, other.Gives items position →
    other.score ≤ best.score ∧ (best.score ≤ other.score → best.place ≤ other.place)

/-- The positions of the results that an answer leaves, when so many candidates were sent, so many of
the best items are looked at, and so many results are wanted. -/
structure RespectsScores (items : List Json) (candidates considered wanted : Nat)
    (positions : List Nat) : Prop where
  distinct : positions.Nodup
  within : ∀ position ∈ positions, position < candidates
  length_le : positions.length ≤ min considered wanted
  scored : ∀ position ∈ positions, ∃ best, Best items position best
  ordered : positions.Pairwise fun earlier later =>
    ∀ best other, Best items earlier best → Best items later other → best.Ahead other
  /-- A candidate with a higher score than one that is kept is kept before it. -/
  closed : ∀ position ∈ positions, ∀ rival < candidates, ∀ best rivalBest,
    Best items position best → Best items rival rivalBest → best.score < rivalBest.score →
      [rival, position].Sublist positions
  /-- A candidate with a score is only left out for other ones: as many as are wanted are kept, or as
  many items as are looked at are better. -/
  complete : ∀ position < candidates, ∀ best, Best items position best →
    position ∈ positions ∨ positions.length = wanted ∨
      ∃ ahead : List Standing, ahead.length = considered ∧ (ahead.map Standing.place).Nodup ∧
        ∀ better ∈ ahead, better.Among items ∧ better.Ahead best

/-! ## Items and their places -/

/-- The items of an answer that have a score, with their places. -/
def placed (items : List Json) : List (Nat × Scored) :=
  items.zipIdx.filterMap fun (item, place) => (Scored.ofItem? item).join.map (place, ·)

def standing (entry : Nat × Scored) : Standing :=
  ⟨entry.1, entry.2.score⟩

variable {items : List Json}

theorem map_snd_placed (items : List Json) : (placed items).map Prod.snd = scoresOf items := by
  have forgets : (fun entry : Json × Nat =>
      ((Scored.ofItem? entry.1).join.map (entry.2, ·)).map Prod.snd) =
        (fun item => (Scored.ofItem? item).join) ∘ Prod.fst := by
    funext entry
    simp [Option.map_map, Function.comp_def]
  rw [placed, scoresOf, List.map_filterMap, forgets, ← List.filterMap_map, List.zipIdx_map_fst]

theorem mem_placed_iff {place : Nat} {scored : Scored} :
    (place, scored) ∈ placed items ↔ ∃ item, items[place]? = some item ∧
      HasScore item scored.score ∧ Scored.indexOf? (item.member? "index") = scored.index? := by
  simp only [placed, List.mem_filterMap, Prod.exists, List.mem_zipIdx_iff_getElem?,
    Option.map_eq_some_iff, Option.join_eq_some_iff, Scored.ofItem?_eq_some_iff, Prod.mk.injEq]
  constructor
  · intro found
    rcases found with ⟨item, _, listed, _, read, rfl, rfl⟩
    exact ⟨item, listed, read⟩
  · intro found
    rcases found with ⟨item, listed, read⟩
    exact ⟨item, place, listed, scored, read, rfl, rfl⟩

theorem placed_pairwise (items : List Json) :
    (placed items).Pairwise fun left right => left.1 < right.1 := by
  have places : items.zipIdx.Pairwise fun left right => left.2 < right.2 := by
    rw [← List.pairwise_map, List.zipIdx_map_snd]
    exact List.pairwise_lt_range'
  rw [placed, List.pairwise_filterMap]
  refine places.imp fun {left right} before entry isEntry other isOther => ?_
  rcases Option.map_eq_some_iff.mp isEntry with ⟨_, _, rfl⟩
  rcases Option.map_eq_some_iff.mp isOther with ⟨_, _, rfl⟩
  exact before

/-- The items that have a score with their places, the best first. -/
def ranking (items : List Json) : List (Nat × Scored) :=
  sortBy (fun left right => right.2.score ≤ left.2.score) (placed items)

theorem map_snd_ranking (items : List Json) :
    (ranking items).map Prod.snd = bestFirst (scoresOf items) := by
  rw [bestFirst, ← map_snd_placed, sortBy_map]
  rfl

theorem mem_ranking_iff {place : Nat} {scored : Scored} :
    (place, scored) ∈ ranking items ↔ ∃ item, items[place]? = some item ∧
      HasScore item scored.score ∧ Scored.indexOf? (item.member? "index") = scored.index? := by
  rw [ranking, mem_sortBy, mem_placed_iff]

theorem ranking_pairwise (items : List Json) :
    (ranking items).Pairwise fun left right => (standing left).Ahead (standing right) := by
  have chains : ∀ first second third : Nat × Scored,
      decide (second.2.score ≤ first.2.score) = true →
        decide (third.2.score ≤ second.2.score) = true →
          decide (third.2.score ≤ first.2.score) = true := by
    intro first second third below above
    exact decide_eq_true (Number.le_trans (of_decide_eq_true above) (of_decide_eq_true below))
  have isNumber : ∀ entry ∈ placed items, entry.2.score ≤ entry.2.score := by
    intro entry member
    rcases mem_placed_iff.mp member with ⟨_, _, scored, _⟩
    exact scored.le_self
  have total : ∀ left ∈ placed items, ∀ right ∈ placed items,
      decide (right.2.score ≤ left.2.score) = true ∨
        decide (left.2.score ≤ right.2.score) = true := by
    intro left leftMember right rightMember
    simpa using Number.le_total (isNumber right rightMember) (isNumber left leftMember)
  exact (pairwise_sortBy chains total (placed_pairwise items)).imp fun stands =>
    ⟨of_decide_eq_true stands.1, fun below => stands.2 (decide_eq_true below)⟩

theorem among_of_mem_ranking {entry : Nat × Scored} (member : entry ∈ ranking items) :
    (standing entry).Among items := by
  rcases mem_ranking_iff.mp member with ⟨item, listed, scored, _⟩
  exact ⟨item, listed, scored⟩

/-! ## The best item of a document -/

/-- The entry of an item that names a document. -/
def Standing.entry (standing : Standing) (position : Nat) : Nat × Scored :=
  (standing.place, ⟨some position, standing.score⟩)

@[simp] theorem standing_entry (given : Standing) (position : Nat) :
    standing (given.entry position) = given :=
  rfl

variable {size position : Nat}

theorem gives_iff_mem_ranking {given : Standing} :
    given.Gives items position ↔ given.entry position ∈ ranking items := by
  rw [Standing.entry, mem_ranking_iff, Standing.Gives]
  simp only [Scored.indexOf?_eq_some_iff]

theorem gives_of_position? {entry : Nat × Scored} (member : entry ∈ ranking items)
    (names : entry.2.position? size = some position) :
    (standing entry).Gives items position := by
  rcases mem_ranking_iff.mp member with ⟨item, listed, scored, named⟩
  rw [(Scored.position?_eq_some_iff.mp names).1, Scored.indexOf?_eq_some_iff] at named
  exact ⟨item, listed, scored, named⟩

theorem position?_entry {best : Standing} (within : position < size) :
    (best.entry position).2.position? size = some position :=
  Scored.position?_eq_some_iff.mpr ⟨rfl, within⟩

theorem Standing.Ahead.weaken {better worse : Standing} (ahead : better.Ahead worse) :
    worse.score ≤ better.score ∧ (better.score ≤ worse.score → better.place ≤ worse.place) :=
  ⟨ahead.1, fun tied => Nat.le_of_lt (ahead.2 tied)⟩

/-- The first item in the order of the scores that names a document is its best one. -/
theorem exists_best {entry : Nat × Scored} (member : entry ∈ ranking items)
    (names : entry.2.position? size = some position) : ∃ best, Best items position best := by
  have within := (Scored.position?_eq_some_iff.mp names).2
  have isSome : ((ranking items).find? fun entry =>
      entry.2.position? size = some position).isSome = true :=
    List.find?_isSome.mpr ⟨entry, member, decide_eq_true names⟩
  rcases Option.isSome_iff_exists.mp isSome with ⟨first, found⟩
  rcases List.find?_eq_some_iff_append.mp found with ⟨firstNames, before, behind, split, others⟩
  have ordered := ranking_pairwise items
  rw [split, List.pairwise_append, List.pairwise_cons] at ordered
  refine ⟨standing first, gives_of_position? (List.mem_of_find?_eq_some found)
    (of_decide_eq_true firstNames), fun other gives => ?_⟩
  have ranked := gives_iff_mem_ranking.mp gives
  rw [split, List.mem_append, List.mem_cons] at ranked
  rcases ranked with earlier | same | later
  · have notNamed := others _ earlier
    rw [position?_entry within] at notNamed
    simp at notNamed
  · rw [← same]
    rcases gives with ⟨_, _, scored, _⟩
    exact ⟨scored.le_self, fun _ => Nat.le_refl _⟩
  · exact (ordered.2.1.1 _ later).weaken

/-! ## Cutting -/

section Cut

variable {considered : Nat}

/-- Where an item that names a document is among the best ones, its best item is. -/
theorem best_mem_take {entry : Nat × Scored} (kept : entry ∈ (ranking items).take considered)
    (names : entry.2.position? size = some position) {best : Standing}
    (isBest : Best items position best) :
    best.entry position ∈ (ranking items).take considered := by
  by_contra lost
  have ranked := gives_iff_mem_ranking.mp isBest.given
  have ahead : (standing entry).Ahead best :=
    (kept_of_lost (ranking_pairwise items) ranked lost).2 entry kept
  have notAhead := isBest.highest _ (gives_of_position? (List.mem_of_mem_take kept) names)
  exact Nat.not_lt.mpr (notAhead.2 ahead.1) (ahead.2 notAhead.1)

/-- The documents that the best items name, each where it is named first. -/
def chosen (items : List Json) (size considered : Nat) : List Nat :=
  named size (((ranking items).take considered).map Prod.snd)

theorem chosen_eq (items : List Json) (size considered : Nat) :
    chosen items size considered = (((ranking items).take considered).filterMap fun entry =>
      entry.2.position? size).eraseDups := by
  rw [chosen, named, List.filterMap_map]
  rfl

theorem mem_chosen_iff :
    position ∈ chosen items size considered ↔
      ∃ entry ∈ (ranking items).take considered, entry.2.position? size = some position := by
  rw [chosen_eq, List.mem_eraseDups, List.mem_filterMap]

theorem mem_chosen_iff_of_best (within : position < size) {best : Standing}
    (isBest : Best items position best) :
    position ∈ chosen items size considered ↔
      best.entry position ∈ (ranking items).take considered := by
  rw [mem_chosen_iff]
  constructor
  · intro found
    rcases found with ⟨entry, kept, names⟩
    exact best_mem_take kept names isBest
  · intro kept
    exact ⟨_, kept, position?_entry within⟩

theorem chosen_pairwise (items : List Json) (size considered : Nat) :
    (chosen items size considered).Pairwise fun earlier later =>
      ∀ best other, Best items earlier best → Best items later other → best.Ahead other := by
  have ordered := (ranking_pairwise items).sublist (List.take_sublist considered _)
  have pairwise := pairwise_eraseDups_filterMap ordered fun entry => entry.2.position? size
  rw [← chosen_eq] at pairwise
  refine pairwise.imp_of_mem fun {earlier later} _ laterMember related => ?_
  intro best other isBest isOther
  rcases related with ⟨entry, kept, names, aheadOfAll⟩
  rcases mem_chosen_iff.mp laterMember with ⟨otherEntry, otherKept, otherNames⟩
  have otherBest := best_mem_take otherKept otherNames isOther
  have otherNamed : (other.entry later).2.position? size = some later :=
    position?_entry (Scored.position?_eq_some_iff.mp otherNames).2
  have ahead := aheadOfAll _ otherBest otherNamed
  rw [standing_entry] at ahead
  have highest := isBest.highest _ (gives_of_position? (List.mem_of_mem_take kept) names)
  refine ⟨Number.le_trans ahead.1 highest.1, fun tied => ?_⟩
  have places := highest.2 (Number.le_trans tied ahead.1)
  have strictly := ahead.2 (Number.le_trans highest.1 tied)
  omega

theorem length_chosen_le (items : List Json) (size considered : Nat) :
    (chosen items size considered).length ≤ considered := by
  rw [chosen_eq]
  calc
    _ ≤ (((ranking items).take considered).filterMap fun entry =>
        entry.2.position? size).length :=
      (List.subperm_of_subset (nodup_eraseDups _) fun _ member =>
        List.mem_eraseDups.mp member).length_le
    _ ≤ ((ranking items).take considered).length := List.length_filterMap_le ..
    _ ≤ considered := List.length_take_le ..

theorem nodup_places_ranking (items : List Json) : ((ranking items).map Prod.fst).Nodup := by
  have places : ((placed items).map Prod.fst).Nodup :=
    List.pairwise_map.mpr ((placed_pairwise items).imp Nat.ne_of_lt)
  exact ((sortBy_perm ..).map Prod.fst).nodup_iff.mpr places

theorem chosen_closed (within : position < size) {best rivalBest : Standing} {rival : Nat}
    (rivalWithin : rival < size) (isBest : Best items position best)
    (isRivalBest : Best items rival rivalBest) (higher : best.score < rivalBest.score)
    (among : position ∈ chosen items size considered) : rival ∈ chosen items size considered := by
  rw [mem_chosen_iff_of_best within isBest] at among
  rw [mem_chosen_iff_of_best rivalWithin isRivalBest]
  by_contra lost
  have ranked := gives_iff_mem_ranking.mp isRivalBest.given
  have ahead := (kept_of_lost (ranking_pairwise items) ranked lost).2 _ among
  rw [standing_entry, standing_entry] at ahead
  exact Number.not_le_of_lt higher ahead.1

/-- What is chosen by an answer, cut to as many as are wanted, respects its scores. -/
theorem chosen_respects_scores (items : List Json) (size considered wanted : Nat) :
    RespectsScores items size considered wanted ((chosen items size considered).take wanted) where
  distinct := by
    rw [chosen_eq]
    exact (nodup_eraseDups _).sublist (List.take_sublist ..)
  within position member := by
    rcases mem_chosen_iff.mp (List.mem_of_mem_take member) with ⟨_, _, names⟩
    exact (Scored.position?_eq_some_iff.mp names).2
  length_le := by
    have chosenLe := length_chosen_le items size considered
    rw [List.length_take]
    omega
  scored position member := by
    rcases mem_chosen_iff.mp (List.mem_of_mem_take member) with ⟨_, kept, names⟩
    exact exists_best (List.mem_of_mem_take kept) names
  ordered := (chosen_pairwise items size considered).sublist (List.take_sublist ..)
  closed position member rival rivalWithin best rivalBest isBest isRivalBest higher := by
    have among := List.mem_of_mem_take member
    rcases mem_chosen_iff.mp among with ⟨_, _, names⟩
    have within := (Scored.position?_eq_some_iff.mp names).2
    have ordered := chosen_pairwise items size considered
    have behind : ¬∀ best other, Best items position best → Best items rival other →
        best.Ahead other := fun ahead =>
      Number.not_le_of_lt higher (ahead best rivalBest isBest isRivalBest).1
    have rivalAmong := chosen_closed within rivalWithin isBest isRivalBest higher among
    have rivalMember : rival ∈ (chosen items size considered).take wanted := by
      by_contra lost
      exact behind ((kept_of_lost ordered rivalAmong lost).2 position member)
    have different : rival ≠ position := by
      rintro rfl
      exact Number.not_le_of_lt higher (isBest.highest _ isRivalBest.given).1
    exact pair_sublist_of_mem (ordered.sublist (List.take_sublist ..)) rivalMember member different
      behind
  complete position within best isBest := by
    by_cases member : position ∈ (chosen items size considered).take wanted
    · exact .inl member
    · refine .inr ?_
      by_cases among : position ∈ chosen items size considered
      · exact .inl (kept_of_lost (chosen_pairwise items size considered) among member).1
      · rw [mem_chosen_iff_of_best within isBest] at among
        have ranked := gives_iff_mem_ranking.mp isBest.given
        rcases kept_of_lost (ranking_pairwise items) ranked among with ⟨full, ahead⟩
        refine .inr ⟨((ranking items).take considered).map standing, ?_, ?_, ?_⟩
        · rw [List.length_map, full]
        · rw [List.map_map]
          exact (nodup_places_ranking items).sublist ((List.take_sublist ..).map _)
        · intro better listed
          rcases List.mem_map.mp listed with ⟨entry, kept, rfl⟩
          exact ⟨among_of_mem_ranking (List.mem_of_mem_take kept), ahead entry kept⟩

end Cut

/-! ## Whole calls -/

theorem takeTo_of_nonneg {α : Type} (values : List α) {limit : Int} (nonneg : 0 ≤ limit) :
    takeTo values limit = values.take limit.toNat :=
  if_pos nonneg

theorem Options.limits_nonneg {settings : Settings} (candidates : 1 ≤ settings.rerankMaxCandidates)
    (results : 1 ≤ settings.rerankMaxResults) (options : Options) :
    0 ≤ (options.limits settings).candidates ∧ 0 ≤ (options.limits settings).results := by
  constructor
  · cases given : options.maxCandidates? <;> simp [limits, given]
    omega
  · cases given : options.maxResults? <;> simp [limits, given]
    omega

theorem map_some_filterMap {α β : Type} {read? : α → Option β} {values : List α}
    (found : ∀ value ∈ values, (read? value).isSome = true) :
    (values.filterMap read?).map some = values.map read? := by
  induction values with
  | nil => rfl
  | cons value rest induction =>
      rcases Option.isSome_iff_exists.mp (found value (List.mem_cons_self ..)) with ⟨_, read⟩
      have restFound := induction fun other member => found other (List.mem_cons_of_mem _ member)
      rw [List.filterMap_cons_some read, List.map_cons, List.map_cons, restFound, read]

theorem Outcome.map_some_apply {α : Type} {positions : List Nat} {values : List α}
    (within : ∀ position ∈ positions, position < values.length) :
    ((ranked positions).apply values).map some = positions.map fun position => values[position]? :=
  map_some_filterMap fun position member => by simp [within position member]

/-- Whatever a successful answer holds, the results that reranking leaves respect its scores: they
stand at the positions that it chooses among those that were sent. -/
theorem reranked_results_respect_scores (settings : Settings)
    (candidatesLimit : 1 ≤ settings.rerankMaxCandidates)
    (resultsLimit : 1 ≤ settings.rerankMaxResults) (context? : Option String)
    (endpoint : Endpoint) (query : String) (contents : List String) (options : Options)
    (unskipped : skip? settings options query contents.length = none) (status : Nat)
    (body : List UInt8) (items : List Json)
    (answered : (resultsCall settings query contents options).answer? endpoint =
      some (status, body))
    (usable : Usable status body items) :
    let limits := options.limits settings
    let candidates := min limits.candidates.toNat contents.length
    let outcome :=
      (rerankResults settings context? endpoint query contents options).outcome
    ∃ positions, outcome = .ranked positions ∧
      RespectsScores items candidates limits.results.toNat
        (options.wanted contents.length candidates) positions ∧
      ∀ {α : Type} (results : List α), results.length = contents.length →
        (outcome.apply results).map some = positions.map fun position => results[position]? := by
  intro limits candidates outcome
  rcases options.limits_nonneg candidatesLimit resultsLimit with ⟨candidatesNonneg, resultsNonneg⟩
  have ranks : (Exchange.make endpoint (resultsCall settings query contents options)).ranked? =
      some ((ranking items).map Prod.snd) :=
    Exchange.ranked?_make_eq_some_iff.mpr
      ⟨status, body, items, answered, usable, (map_snd_ranking items).symm⟩
  have sent : (takeTo contents limits.candidates).length = candidates := by
    rw [takeTo_of_nonneg _ candidatesNonneg, List.length_take]
  have found : outcome = .ranked ((chosen items candidates limits.results.toNat).take
      (options.wanted contents.length candidates)) := by
    have came : outcome = _ := outcome_rerankResults (skip?_eq_none_iff.mp unskipped)
    rw [came, ranks]
    simp only
    rw [sent, takeTo_of_nonneg _ resultsNonneg, ← List.map_take, chosen]
  have respects := chosen_respects_scores items candidates limits.results.toNat
    (options.wanted contents.length candidates)
  refine ⟨_, found, respects, fun results sameLength => ?_⟩
  rw [found]
  refine Outcome.map_some_apply fun position member => ?_
  have within := respects.within position member
  omega

/-- An answer that gives two documents several scores. Of its other items one names a document that was
not sent, one names none, two have scores that are no numbers, and one is a number itself. -/
def mixedBody : List UInt8 :=
  let item (index score : String) : List Char :=
    "\x7b\"index\":".toList ++ index.toList ++ ",\"relevance_score\":".toList ++ score.toList ++
      "\x7d,".toList
  let items := item "0" "0.5" ++ item "3" "0.9" ++ item "1" "0.5" ++ item "2" "\"1\"" ++
    item "2" "NaN" ++ item "1" "1" ++ item "true" "3" ++ item "0" "0.25"
  ("\x7b\"results\":[".toList ++ items ++ "5]\x7d".toList).map fun character =>
    UInt8.ofNat character.toNat

def keyedSettings : Settings :=
  (Settings.check [("RERANK_API_KEY", "key")]).value?.get (by decide +kernel)

def mixedEndpoint : Endpoint := fun _ => .answered 200 mixedBody

theorem mixedBody_respected :
    1 ≤ keyedSettings.rerankMaxCandidates ∧ 1 ≤ keyedSettings.rerankMaxResults ∧
    skip? keyedSettings { maxCandidates? := some 3 } "query" 4 = none ∧
    ∃ items, Usable 200 mixedBody items ∧ RespectsScores items 3 10 3 [1, 0] := by
  have call : (resultsCall keyedSettings "query" ["a", "b", "c", "d"]
      { maxCandidates? := some 3 }).answer? mixedEndpoint = some (200, mixedBody) := by
    decide +kernel
  have read : Reply.ofBytes mixedBody = .scores
      [⟨some 0, 0.5⟩, ⟨some 3, 0.9⟩, ⟨some 1, 0.5⟩, ⟨some 1, 1.0⟩, ⟨none, 3.0⟩, ⟨some 0, 0.25⟩] := by
    decide +kernel
  have outcome : (rerankResults keyedSettings none mixedEndpoint "query" ["a", "b", "c", "d"]
      { maxCandidates? := some 3 }).outcome = .ranked [1, 0] := by
    decide +kernel
  rcases Reply.ofBytes_eq_scores_iff.mp read with ⟨answer, items, parsed, listed, representable, _⟩
  have usable : Usable 200 mixedBody items := ⟨by decide, ⟨answer, parsed, listed⟩, representable⟩
  rcases reranked_results_respect_scores keyedSettings (by decide +kernel) (by decide +kernel) none
    mixedEndpoint "query" ["a", "b", "c", "d"] { maxCandidates? := some 3 } (by decide +kernel)
    200 mixedBody items call usable with ⟨positions, found, respects, _⟩
  cases outcome.symm.trans found
  exact ⟨by decide +kernel, by decide +kernel, by decide +kernel, items, usable, respects⟩

end HybridSearch.Rerank
