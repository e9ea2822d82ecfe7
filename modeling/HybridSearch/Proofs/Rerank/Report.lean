import Mathlib.Data.List.Nodup
import HybridSearch.Proofs.Distinct
import HybridSearch.Proofs.Rerank.Exchange

/-! What reranking comes to, said by the call that it makes. Both ways of reranking skip the call for
the same reasons; when they make one, its scores decide the outcome. -/

namespace HybridSearch.Rerank

/-! ## What is left -/

namespace Outcome

variable {α β : Type} {values : List α}

theorem mem_of_mem_apply {outcome : Outcome} {value : α} (kept : value ∈ outcome.apply values) :
    value ∈ values := by
  cases outcome with
  | untouched => exact kept
  | ranked positions =>
      rcases List.mem_filterMap.mp kept with ⟨position, _, found⟩
      exact List.mem_of_getElem? found

/-- The elements at different positions differ in what no two elements have in common. -/
theorem nodup_map_apply {outcome : Outcome} {read : α → β}
    (different : ∀ positions, outcome = .ranked positions → positions.Nodup)
    (distinct : (values.map read).Nodup) : ((outcome.apply values).map read).Nodup := by
  cases outcome with
  | untouched => exact distinct
  | ranked positions =>
      rw [apply, List.map_filterMap]
      refine List.Nodup.filterMap ?_ (different positions rfl)
      intro left right key leftRead rightRead
      rw [Option.mem_def, ← List.getElem?_map] at leftRead rightRead
      rcases List.getElem?_eq_some_iff.mp leftRead with ⟨within, _⟩
      exact (List.getElem?_inj within distinct).mp (leftRead.trans rightRead.symm)

end Outcome

/-! ## Calls -/

/-- Reranking is asked for, there is something to rank by and something to rank, and there is a
key. -/
structure Needed (settings : Settings) (options : Options) (query : String) (count : Nat) :
    Prop where
  enabled : options.enabled = true
  queried : Text.allBlank query = false
  filled : count ≠ 0
  keyed : ∃ key, settings.rerankKey? = some key ∧ key ≠ ""

/-- How many results are wanted: as many as the options say or as there are, but no more than there are
candidates. -/
def Options.wanted (options : Options) (given candidates : Nat) : Nat :=
  min (options.count?.getD given) candidates

/-- The call by which results are reranked. -/
def resultsCall (settings : Settings) (query : String) (contents : List String)
    (options : Options) : Call :=
  let limits := options.limits settings
  let candidates := takeTo contents limits.candidates
  callFor settings options query (candidates.map (clip limits.contentLength))
    (options.wanted contents.length candidates.length)

/-- The candidates among some items that have a content, with their positions. -/
def sentContents (settings : Settings) (contents : List (Option String)) (options : Options) :
    List (Nat × String) :=
  withContent (takeTo contents (options.limits settings).candidates)

/-- How many items are wanted of those that have a content. -/
def wantedContents (settings : Settings) (contents : List (Option String)) (options : Options) :
    Nat :=
  min (options.wanted contents.length (takeTo contents (options.limits settings).candidates).length)
    (sentContents settings contents options).length

/-- The call by which items are reranked. -/
def contentsCall (settings : Settings) (query : String) (contents : List (Option String))
    (options : Options) : Call :=
  callFor settings options query
    ((sentContents settings contents options).map fun candidate =>
      clip (options.limits settings).contentLength candidate.2)
    (wantedContents settings contents options)

variable {settings : Settings} {context? : Option String} {endpoint : Endpoint} {query : String}
  {options : Options}

theorem skip?_eq_none_iff {count : Nat} :
    skip? settings options query count = none ↔ Needed settings options query count := by
  have usable : settings.usableKey?.isNone = false ↔
      ∃ key, settings.rerankKey? = some key ∧ key ≠ "" := by
    rw [Settings.usableKey?, Option.isNone_eq_false_iff, Option.isSome_iff_exists]
    simp [Option.filter_eq_some_iff]
  constructor
  · intro notSkipped
    rw [skip?] at notSkipped
    split at notSkipped
    · cases notSkipped
    · next enabled =>
      split at notSkipped
      · cases notSkipped
      · next something =>
        split at notSkipped
        · cases notSkipped
        · next key =>
          exact ⟨by simpa using enabled, by simp_all, by simp_all,
            usable.mp (Bool.eq_false_iff.mpr key)⟩
  · intro needed
    rw [skip?, needed.enabled, needed.queried, usable.mpr needed.keyed]
    simp [needed.filled]

instance {count : Nat} : Decidable (Needed settings options query count) :=
  decidable_of_iff _ skip?_eq_none_iff

theorem not_needed_of_skip {count : Nat} {skip : Skip}
    (skipped : skip? settings options query count = some skip) :
    ¬Needed settings options query count := fun needed => by
  cases skipped.symm.trans (skip?_eq_none_iff.mpr needed)

/-! ## Results -/

section Results

variable {contents : List String}

theorem rerankResults_of_skip {skip : Skip}
    (skipped : skip? settings options query contents.length = some skip) :
    rerankResults settings context? endpoint query contents options =
      skip.report (options.effectiveId? context?) := by
  simp only [rerankResults, skipped]

theorem exchange?_rerankResults (needed : Needed settings options query contents.length) :
    (rerankResults settings context? endpoint query contents options).exchange? =
      some (.make endpoint (resultsCall settings query contents options)) := by
  simp only [rerankResults, skip?_eq_none_iff.mpr needed]
  split
  · rfl
  · split
    · rfl
    · split <;> rfl

theorem outcome_rerankResults (needed : Needed settings options query contents.length) :
    (rerankResults settings context? endpoint query contents options).outcome =
      match (Exchange.make endpoint (resultsCall settings query contents options)).ranked? with
      | none => .untouched
      | some ranked =>
          let candidates := (takeTo contents (options.limits settings).candidates).length
          .ranked ((named candidates (takeTo ranked (options.limits settings).results)).take
            (options.wanted contents.length candidates)) := by
  simp only [rerankResults, skip?_eq_none_iff.mpr needed]
  change Report.outcome (match
    (Exchange.make endpoint (resultsCall settings query contents options)).ranked? with
    | none => _
    | some ranked => _) = _
  cases (Exchange.make endpoint (resultsCall settings query contents options)).ranked? with
  | none => rfl
  | some ranked =>
      simp only
      -- Where nothing is named there is nothing to take either.
      split
      · next empty =>
        rw [List.isEmpty_iff.mp empty]
        exact congrArg Outcome.ranked List.take_nil.symm
      · split
        · next empty =>
          rw [List.isEmpty_iff.mp empty]
          exact congrArg Outcome.ranked List.take_nil.symm
        · rfl

/-- No result is kept twice, whatever the answer of the service says. -/
theorem nodup_of_outcome_rerankResults {positions : List Nat}
    (ranks : (rerankResults settings context? endpoint query contents options).outcome =
      .ranked positions) : positions.Nodup := by
  cases skips : skip? settings options query contents.length with
  | some skip =>
      rw [rerankResults_of_skip skips] at ranks
      cases ranks
  | none =>
      rw [outcome_rerankResults (skip?_eq_none_iff.mp skips)] at ranks
      split at ranks <;> cases ranks
      exact (nodup_eraseDups _).sublist (List.take_sublist ..)

end Results

/-! ## Items -/

section Contents

variable {contents : List (Option String)}

theorem rerankContents_of_skip {skip : Skip}
    (skipped : skip? settings options query contents.length = some skip) :
    rerankContents settings context? endpoint query contents options =
      skip.report (options.effectiveId? context?) := by
  simp only [rerankContents, skipped]

theorem rerankContents_of_empty (needed : Needed settings options query contents.length)
    (empty : sentContents settings contents options = []) :
    rerankContents settings context? endpoint query contents options =
      ⟨.ranked [], options.effectiveId? context?, [.noContent], none⟩ := by
  simp only [rerankContents, skip?_eq_none_iff.mpr needed]
  exact if_pos (List.isEmpty_iff.mpr empty)

theorem rerankContents_of_filled (needed : Needed settings options query contents.length)
    (filled : sentContents settings contents options ≠ []) :
    let exchange := Exchange.make endpoint (contentsCall settings query contents options)
    let sent := sentContents settings contents options
    rerankContents settings context? endpoint query contents options =
      ⟨match exchange.ranked? with
        | none => .untouched
        | some ranked =>
            .ranked ((named sent.length
              (ranked.take (wantedContents settings contents options))).filterMap fun index =>
                sent[index]?.map Prod.fst),
        options.effectiveId? context?, exchange.events, some exchange⟩ := by
  simp only [rerankContents, skip?_eq_none_iff.mpr needed]
  exact if_neg fun empty => filled (List.isEmpty_iff.mp empty)

end Contents

end HybridSearch.Rerank
