import HybridSearch.Proofs.Metrics.Totals
import Mathlib.Data.List.Forall2
import Mathlib.Data.List.Lex
import Mathlib.Data.String.Basic

/-! Metrics do not depend on the order of arrival. Every series keeps a sum and counts, to which it makes
no difference in which order parts are added; and series are shown in the order of their labels, not in
the order in which they came. Only sums of durations are binary numbers, and these depend on the order in
which they are added up. -/

namespace HybridSearch.Metrics

/-- Two lines are the same, or they show sums of the same durations, added up in different orders. -/
inductive SameLine : String → String → Prop where
  | same (line : String) : SameLine line line
  | sum (family : HistogramFamily) (labels : String) {durations others : List Float}
      (reordered : durations.Perm others) :
      SameLine
        (Collector.sample (family.presentation.name ++ "_sum") labels
          (Number.twoPlaces (durations.foldl (· + ·) 0.0)))
        (Collector.sample (family.presentation.name ++ "_sum") labels
          (Number.twoPlaces (others.foldl (· + ·) 0.0)))

theorem SameLine.refl_list (lines : List String) : List.Forall₂ SameLine lines lines :=
  List.forall₂_same.mpr fun line _ => .same line

/-! ## The order of rows -/

namespace Label

theorem before_texts (left right : List String) :
    before (left.map .text) (right.map .text) = decide (left < right) := by
  have ordered : allPrecede (left.map .text) (right.map .text) = .ok (decide (left < right)) := by
    induction left generalizing right with
    | nil => cases right <;> simp [allPrecede]
    | cons first rest induction =>
        cases right with
        | nil => simp [allPrecede]
        | cons other others =>
            by_cases equal : first = other
            · simp [allPrecede, same, toJson, Json.same, equal, induction]
            · simp [allPrecede, same, toJson, Json.same, equal, Json.precedes, Json.stand,
                Json.Order.ofTexts, List.cons_lt_cons_iff]
  rw [before, ordered]

end Label

/-- The rows of a family are shown in the order of their names. -/
theorem pairwise_of_sorted {α : Type} {rows : List (List Label × α)} {named : List (List String)}
    {value : List String → α}
    (shown : Collector.sorted rows = named.map fun names => (names.map .text, value names)) :
    named.Pairwise (· ≤ ·) := by
  have texts : rows.map Prod.fst ∈ Set.range (List.map (List.map Label.text)) := by
    rw [Set.range_list_map]
    intro row member
    rcases List.mem_map.mp member with ⟨entry, among, rfl⟩
    rw [← (Collector.sorted_perm rows).mem_iff, shown] at among
    rcases List.mem_map.mp among with ⟨names, _, rfl⟩
    exact ⟨names, rfl⟩
  rcases texts with ⟨arrived, isText⟩
  have sorted : (sortBy (fun left right => !decide (right < left)) arrived).map (List.map .text) =
      named.map (List.map Label.text) := by
    have labels := congrArg (List.map Prod.fst) shown
    rw [Collector.sorted, ← sortBy_map (fun left right => !Label.before right left) Prod.fst,
      ← isText, sortBy_map, List.map_map] at labels
    simp only [Label.before_texts] at labels
    exact labels
  have injective : Function.Injective (List.map (List.map Label.text)) :=
    List.map_injective_iff.mpr (List.map_injective_iff.mpr fun _ _ same => Label.text.inj same)
  rw [← injective sorted]
  exact pairwise_sortBy_le (by simp) arrived

/-- Two families show the same names when the same names came. -/
theorem eq_of_same_names {α β : Type} {rows : List (List Label × α)} {others : List (List Label × β)}
    {named namedOthers : List (List String)} {value : List String → α} {valueOther : List String → β}
    (shown : Collector.sorted rows = named.map fun names => (names.map .text, value names))
    (shownOthers : Collector.sorted others =
      namedOthers.map fun names => (names.map .text, valueOther names))
    (nodup : named.Nodup) (nodupOthers : namedOthers.Nodup)
    (same : ∀ names, names ∈ named ↔ names ∈ namedOthers) : named = namedOthers := by
  have reordered : named.Perm namedOthers := (List.perm_ext_iff_of_nodup nodup nodupOthers).mpr same
  apply reordered.eq_of_pairwise _ (pairwise_of_sorted shown) (pairwise_of_sorted shownOthers)
  intro _ _ _ _
  exact le_antisymm

/-! ## The lines of a histogram -/

theorem Histogram.cumulative_congr {first second : Histogram}
    (same : ∀ bucket, first.inBucket bucket = second.inBucket bucket) (before : Nat)
    (buckets : List String) :
    first.cumulative before buckets = second.cumulative before buckets := by
  induction buckets generalizing before with
  | nil => rfl
  | cons bucket rest induction => rw [cumulative, cumulative, same, induction]

/-- A histogram of observations shows the same in whatever order these were measured. -/
theorem histogramLines_same {measured others : List Observation} (reordered : measured.Perm others)
    (bounds shownBounds : List Json) (family : HistogramFamily) (row : List Label) :
    List.Forall₂ SameLine
      (Collector.histogramLines shownBounds family.presentation row
        ((partsIn bounds measured).foldl Histogram.addPart .empty))
      (Collector.histogramLines shownBounds family.presentation row
        ((partsIn bounds others).foldl Histogram.addPart .empty)) := by
  have parts : (partsIn bounds measured).Perm (partsIn bounds others) := reordered.map _
  have buckets (bucket : String) :
      ((partsIn bounds measured).foldl Histogram.addPart .empty).inBucket bucket =
        ((partsIn bounds others).foldl Histogram.addPart .empty).inBucket bucket := by
    rw [inBucket_partsIn, inBucket_partsIn, reordered.countP_eq]
  rw [Collector.histogramLines, Collector.histogramLines, Histogram.cumulative_congr buckets,
    Histogram.foldl_addPart (partsIn bounds measured), Histogram.foldl_addPart (partsIn bounds others),
    parts.length_eq]
  apply List.rel_append (SameLine.refl_list _)
  exact .cons (.sum family _ (parts.map Prod.snd)) (SameLine.refl_list _)

/-! ## The lines of a family -/

section Families

variable {collector other : Collector} {bounds : List Json} {observations others : List Observation}
  (reordered : observations.Perm others)
  (texts : ∀ observation ∈ observations, observation.HasTextLabels)

include reordered

theorem addendsUnder_perm (series : CounterSeries String) :
    (addendsUnder series observations).Perm (addendsUnder series others) :=
  ((reordered.flatMap_right _).filter _).map _

theorem measuredUnder_perm (series : HistogramSeries String) :
    (measuredUnder series observations).Perm (measuredUnder series others) :=
  reordered.filter _

include texts

theorem counterLines_eq {measured measuredOthers : List (HistogramSeries Label × String × Float)}
    (holds : collector.Holds bounds (observations.flatMap Observation.counted) measured)
    (holdsOther : other.Holds bounds (others.flatMap Observation.counted) measuredOthers)
    (integers : ∀ observation ∈ observations, observation.HasIntegerResults)
    (family : CounterFamily) : collector.counterLines family = other.counterLines family := by
  rcases holds.sorted_counters_eq texts family with ⟨named, nodup, came, shown⟩
  rcases holdsOther.sorted_counters_eq
    (fun observation member => texts observation (reordered.mem_iff.mpr member)) family with
    ⟨namedOthers, nodupOthers, cameOthers, shownOthers⟩
  have same : named = namedOthers := by
    apply eq_of_same_names shown shownOthers nodup nodupOthers
    intro names
    rw [came, cameOthers]
    exact ((reordered.flatMap_right _).map _).mem_iff
  rw [Collector.counterLines, Collector.counterLines, shown, shownOthers, ← same]
  congr 2
  apply List.map_congr_left
  intro names _
  have addends := addendsUnder_perm reordered ⟨family, names⟩
  have whole : ∀ part ∈ addendsUnder ⟨family, names⟩ observations,
      ∃ addend, part.amount? = some (.integer addend) := by
    intro addend member
    rcases List.mem_map.mp member with ⟨part, among, rfl⟩
    rcases List.mem_flatMap.mp (List.mem_of_mem_filter among) with ⟨observation, observed, counts⟩
    exact (integers observation observed).named part counts
  rw [foldl_plus whole, foldl_plus fun part member => whole part (addends.mem_iff.mpr member),
    (addends.map wholeOf).sum_eq]

theorem histogramLines_related
    {counted countedOthers : List (CounterSeries Label × Json)}
    (holds : collector.Holds bounds counted (observations.map (Observation.measured bounds)))
    (holdsOther : other.Holds bounds countedOthers (others.map (Observation.measured bounds)))
    (family : HistogramFamily) :
    List.Forall₂ SameLine (collector.familyLines (.histogram family))
      (other.familyLines (.histogram family)) := by
  rcases holds.sorted_histograms_eq texts family with ⟨named, nodup, came, shown⟩
  rcases holdsOther.sorted_histograms_eq
    (fun observation member => texts observation (reordered.mem_iff.mpr member)) family with
    ⟨namedOthers, nodupOthers, cameOthers, shownOthers⟩
  have same : named = namedOthers := by
    apply eq_of_same_names shown shownOthers nodup nodupOthers
    intro names
    rw [came, cameOthers]
    exact ((reordered.map _).map _).mem_iff
  rw [Collector.familyLines, Collector.familyLines, shown, shownOthers, ← same, holds.bounds_eq,
    holdsOther.bounds_eq]
  apply List.rel_append (SameLine.refl_list _)
  rw [List.flatMap_map, List.flatMap_map]
  apply List.rel_flatMap (R := Eq) (List.forall₂_refl named)
  rintro names _ rfl
  exact histogramLines_same (measuredUnder_perm reordered _) bounds bounds family _

end Families

namespace Collector

/-- Metrics show the same in whatever order observations arrive. Where a sequence of observations is
recorded, every sequence of the same observations is, and the two texts are the same line by line, but
for the last digits of sums of durations. -/
theorem lines_same_in_any_order {bounds : List Json} {observations others : List Observation}
    (reordered : observations.Perm others)
    (texts : ∀ observation ∈ observations, observation.HasTextLabels)
    (integers : ∀ observation ∈ observations, observation.HasIntegerResults)
    {collector : Collector}
    (recorded : recordAll observe (ofBounds bounds) observations = .ok collector) :
    ∃ other, recordAll observe (ofBounds bounds) others = .ok other ∧
      collector.text? = .ok ("\n".intercalate collector.lines ++ "\n") ∧
      other.text? = .ok ("\n".intercalate other.lines ++ "\n") ∧
      List.Forall₂ SameLine collector.lines other.lines := by
  have addable : ∀ observation ∈ observations, observation.Addable (ofBounds bounds).bounds :=
    fun observation member =>
      ⟨texts observation member, measurable_of_recordAll recorded observation member,
        integers observation member⟩
  have othersAddable : ∀ observation ∈ others, observation.Addable (ofBounds bounds).bounds :=
    fun observation member => addable observation (reordered.mem_iff.mpr member)
  rcases exists_recorded_of_addable othersAddable with ⟨other, otherRecorded⟩
  have holds := holds_of_recordAll recorded
  have holdsOther := holds_of_recordAll otherRecorded
  refine ⟨other, otherRecorded, holds.text?_eq_ok texts,
    holdsOther.text?_eq_ok fun observation member => (othersAddable observation member).texts, ?_⟩
  apply List.rel_flatMap (R := Eq) (List.forall₂_refl Family.all)
  rintro family _ rfl
  cases family with
  | counter family =>
      rw [familyLines, familyLines, counterLines_eq reordered texts holds holdsOther integers]
      exact SameLine.refl_list _
  | histogram family => exact histogramLines_related reordered texts holds holdsOther family

theorem observedRun_texts : ∀ observation ∈ observedRun, observation.HasTextLabels := by
  simp [observedRun, Observation.HasTextLabels, Observation.counter]

/-- The run backwards shows the same, up to its sums. -/
theorem observedRun_reversed :
    ∃ collector other, recordAll observe (ofBounds observedBounds) observedRun = .ok collector ∧
      recordAll observe (ofBounds observedBounds) observedRun.reverse = .ok other ∧
      List.Forall₂ SameLine collector.lines other.lines := by
  rcases observedRun_recorded with ⟨collector, recorded⟩
  rcases lines_same_in_any_order (List.reverse_perm observedRun).symm observedRun_texts
    observedRun_whole recorded with ⟨other, otherRecorded, _, _, same⟩
  exact ⟨collector, other, recorded, otherRecorded, same⟩

end Collector

end HybridSearch.Metrics
