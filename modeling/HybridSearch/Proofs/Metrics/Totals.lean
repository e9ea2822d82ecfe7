import HybridSearch.Proofs.Metrics.Names
import HybridSearch.Proofs.Metrics.Reconciliation
import HybridSearch.Proofs.Metrics.Recording

/-! What counters show of observations as the program makes them, with texts for labels and integers for
results. They are recorded without fail, however large the totals, and a counter shows one line for each
row of names under which something came, with the sum of what came there. -/

namespace HybridSearch.Metrics

/-- The sum of what came under some names. -/
def totalUnder (names : List String) (came : List (List String × Int)) : Int :=
  ((came.filter fun arrival => arrival.1 = names).map Prod.snd).sum

/-- The counter of a family shows what came, and nothing else. -/
def Collector.Shows (collector : Collector) (family : CounterFamily)
    (came : List (List String × Int)) : Prop :=
  ∃ named : List (List String), named.Nodup ∧ (∀ names, names ∈ named ↔ names ∈ came.map Prod.fst) ∧
    collector.counterLines family =
      totalLines family (named.map fun names => (names.map .text, totalUnder names came))

namespace Observation

/-- Its labels are texts, its duration is a binary number, and its results are an integer. -/
structure Whole (observation : Observation) : Prop where
  texts : observation.HasTextLabels
  timed : ∃ duration, observation.duration = .float duration
  found : ∀ series results, observation.results? = some (series, results) →
    ∃ count, results = .integer count

/-- Its results, if it has some, are an integer. -/
def HasIntegerResults (observation : Observation) : Prop :=
  ∀ series results, observation.results? = some (series, results) →
    ∃ count, results.amount? = some (.integer count)

/-- Its labels are texts, its duration can be measured, and its results are an integer. -/
structure Addable (bounds : List Json) (observation : Observation) : Prop where
  texts : observation.HasTextLabels
  measurable : observation.Measurable bounds
  integers : observation.HasIntegerResults

theorem Whole.integers {observation : Observation} (whole : observation.Whole) :
    observation.HasIntegerResults := by
  intro series results given
  rcases whole.found series results given with ⟨count, rfl⟩
  exact ⟨count, rfl⟩

theorem Whole.addable {bounds : List Json} (numeric : ∀ bound ∈ bounds, bound.amount?.isSome = true)
    {observation : Observation} (whole : observation.Whole) : observation.Addable bounds where
  texts := whole.texts
  measurable := by
    rcases whole.timed with ⟨duration, isDuration⟩
    rcases Histogram.exists_bucketOf duration numeric with ⟨bucket, found⟩
    exact ⟨bucket, duration, isDuration ▸ found, isDuration ▸ rfl⟩
  integers := whole.integers

/-- Only integers are added to counters. -/
theorem HasIntegerResults.named {observation : Observation}
    (integers : observation.HasIntegerResults) :
    ∀ part ∈ observation.namedCounts, ∃ addend, part.2.amount? = some (.integer addend) := by
  intro part member
  rcases List.mem_cons.mp member with rfl | results
  · exact ⟨1, rfl⟩
  · rcases List.mem_map.mp (Option.toList_map .. ▸ results) with ⟨⟨series, given⟩, found, rfl⟩
    exact integers series given (Option.mem_toList.mp found)

theorem Addable.counted {bounds : List Json} {observation : Observation}
    (addable : observation.Addable bounds) :
    ∀ part ∈ observation.counted, ∃ addend, part.2.amount? = some (.integer addend) := by
  intro part member
  rw [addable.texts.counted_eq] at member
  rcases List.mem_map.mp member with ⟨named, among, rfl⟩
  exact addable.integers.named named among

/-- What an observation adds to the counter of a family. -/
def addends (family : CounterFamily) (observation : Observation) : List (List String × Int) :=
  observation.namedCounts.filterMap fun part =>
    if part.1.family = family then some (part.1.labels, wholeOf part.2) else none

theorem mem_addends_iff {family : CounterFamily} {observation : Observation}
    {names : List String} :
    names ∈ (observation.addends family).map Prod.fst ↔
      ⟨family, names⟩ ∈ observation.namedCounts.map Prod.fst := by
  simp only [addends, List.mem_map, List.mem_filterMap, Option.ite_none_right_eq_some]
  constructor
  · rintro ⟨_, ⟨part, member, rfl, equal⟩, rfl⟩
    cases equal
    exact ⟨part, member, rfl⟩
  · rintro ⟨part, member, same⟩
    exact ⟨_, ⟨part, member, congrArg CounterSeries.family same, rfl⟩,
      congrArg CounterSeries.labels same⟩

/-- What is added under some names is what is added to the series with these names. -/
theorem filter_addends (family : CounterFamily) (names : List String)
    (observation : Observation) :
    (observation.addends family).filter (fun arrival => arrival.1 = names) =
      (observation.namedCounts.filter fun part => part.1 = ⟨family, names⟩).map
        fun part => (part.1.labels, wholeOf part.2) := by
  rw [addends]
  induction observation.namedCounts with
  | nil => rfl
  | cons part rest induction =>
      rcases part with ⟨⟨own, labels⟩, addend⟩
      by_cases ofFamily : own = family <;> by_cases named : labels = names <;>
        simp_all

theorem whole_request (method path status : String) (duration : Float) :
    (request (.string method) (.string path) status (.float duration)).Whole where
  texts := by simp [HasTextLabels, counter]
  timed := ⟨duration, rfl⟩
  found _ _ given := nomatch given

theorem whole_search (mode : String) (parallel success : Bool) (duration : Float) (count : Int) :
    (search (.string mode) parallel success (.float duration) (.integer count)).Whole where
  texts := by simp [HasTextLabels, counter]
  timed := ⟨duration, rfl⟩
  found series results given := by
    cases success <;> cases given
    exact ⟨count, rfl⟩

theorem whole_external (provider operation status : String) (duration : Float) :
    (external (.string provider) (.string operation) status (.float duration)).Whole where
  texts := by simp [HasTextLabels, counter]
  timed := ⟨duration, rfl⟩
  found _ _ given := nomatch given

end Observation

namespace Collector

variable {collector : Collector} {bounds : List Json} {observations : List Observation}

/-! ## Recording -/

section Counts

variable {counted : List (CounterSeries Label × Json)}
  {measured : List (HistogramSeries Label × String × Float)}
  (holds : collector.Holds bounds counted measured)
  (whole : ∀ part ∈ counted, ∃ addend, part.2.amount? = some (.integer addend))

include holds whole

/-- What only integers were added to is an integer. -/
theorem Holds.exists_total (series : CounterSeries Label) :
    ∃ total, (collector.counters.get? series).getD (.integer 0) = .integer total := by
  cases found : collector.counters.get? series with
  | none => exact ⟨0, rfl⟩
  | some value =>
      rcases Option.map_eq_some_iff.mp found with ⟨entry, kept, rfl⟩
      rw [Option.getD_some, holds.counters.total entry (List.mem_of_find?_eq_some kept), foldl_plus]
      · exact ⟨_, rfl⟩
      · intro part among
        rcases List.mem_map.mp among with ⟨arrival, came, rfl⟩
        exact whole arrival (List.mem_of_mem_filter came)

theorem Holds.count_succeeds (family : CounterFamily) (labels : List Label) {addend : Json}
    {amount : Int} (isAmount : addend.amount? = some (.integer amount)) :
    (collector.count family labels addend).2 = none := by
  rcases holds.exists_total whole (collector.counterSeries family labels) with ⟨total, isTotal⟩
  simp [Collector.count, isAmount, isTotal, Amount.add?]

omit whole in
theorem Holds.measure_succeeds (family : HistogramFamily) (labels : List Label)
    {observation : Observation} (measurable : observation.Measurable bounds) :
    (collector.measure family labels observation.duration).2 = none := by
  rcases measurable with ⟨bucket, number, found, near⟩
  rcases Option.bind_eq_some_iff.mp near with ⟨amount, isAmount, near⟩
  simp [Collector.measure, holds.bounds_eq, found, isAmount, near]

/-- An observation that can be added is recorded, whatever such observations came before. -/
theorem Holds.observe_succeeds {observation : Observation} (addable : observation.Addable bounds) :
    (collector.observe observation).2 = none := by
  have counts : collector.countOne observation = ((collector.countOne observation).1, none) := by
    refine Prod.ext rfl ?_
    simp only [Collector.countOne, labels?_of_texts addable.texts]
    exact holds.count_succeeds whole _ _ rfl
  have afterCount := holds.countOne counts
  have wholeAfter : ∀ part ∈ counted ++ [(observation.counterKey, Json.integer 1)],
      ∃ addend, part.2.amount? = some (.integer addend) := by
    intro part member
    rcases List.mem_append.mp member with before | own
    · exact whole part before
    · rw [List.mem_singleton.mp own]
      exact ⟨1, rfl⟩
  generalize (collector.countOne observation).1 = after at counts afterCount
  have measures : after.measureDuration observation =
      ((after.measureDuration observation).1, none) := by
    refine Prod.ext rfl ?_
    simp only [Collector.measureDuration, labels?_of_texts addable.texts.histogram]
    exact afterCount.measure_succeeds _ _ addable.measurable
  have afterMeasure := afterCount.measureDuration measures
  rw [Collector.observe, counts]
  dsimp only
  rw [measures]
  dsimp only
  rw [Collector.countResults]
  split
  · rfl
  · next series results given =>
    rcases addable.integers series results given with ⟨count, isCount⟩
    simp only [labels?_of_texts (addable.texts.results given)]
    exact afterMeasure.count_succeeds wholeAfter _ _ isCount

end Counts

/-- Observations that can be added are all recorded. -/
theorem exists_recorded_of_addable
    (addable : ∀ observation ∈ observations, observation.Addable (ofBounds bounds).bounds) :
    ∃ collector, recordAll observe (ofBounds bounds) observations = .ok collector := by
  refine exists_recordAll
    (fun kept => ∃ counted measured,
      (∀ part ∈ counted, ∃ addend, part.2.amount? = some (.integer addend)) ∧
        kept.Holds (ofBounds bounds).bounds counted measured)
    ⟨[], [], by simp, holds_ofBounds bounds⟩ fun observation member kept holds => ?_
  rcases holds with ⟨counted, measured, wholeParts, holds⟩
  have succeeds := holds.observe_succeeds wholeParts (addable observation member)
  refine ⟨succeeds, _, _, fun part among => ?_, holds.observe (Prod.ext rfl succeeds)⟩
  rcases List.mem_append.mp among with before | own
  · exact wholeParts part before
  · exact (addable observation member).counted part own

/-- Observations as the program makes them are all recorded. -/
theorem exists_recorded_of_whole
    (numeric : ∀ bound ∈ (ofBounds bounds).bounds, bound.amount?.isSome = true)
    (whole : ∀ observation ∈ observations, observation.Whole) :
    ∃ collector, recordAll observe (ofBounds bounds) observations = .ok collector :=
  exists_recorded_of_addable fun observation member => (whole observation member).addable numeric

/-! ## Showing -/

theorem sum_addendsUnder (family : CounterFamily) (names : List String)
    (observations : List Observation) :
    ((addendsUnder ⟨family, names⟩ observations).map wholeOf).sum =
      totalUnder names (observations.flatMap (Observation.addends family)) := by
  have same : (observations.flatMap (Observation.addends family)).filter
      (fun arrival => arrival.1 = names) =
      ((observations.flatMap Observation.namedCounts).filter
        fun part => part.1 = ⟨family, names⟩).map fun part => (part.1.labels, wholeOf part.2) := by
    rw [List.filter_flatMap, List.filter_flatMap, List.map_flatMap]
    exact List.flatMap_congr fun observation _ => observation.filter_addends family names
  rw [addendsUnder, Keyed.partsOf, totalUnder, same, List.map_map, List.map_map]
  rfl

/-- After a run, each counter shows what the observations added to it. -/
theorem shows_of_recordAll (whole : ∀ observation ∈ observations, observation.Whole)
    (recorded : recordAll observe (ofBounds bounds) observations = .ok collector)
    (family : CounterFamily) :
    collector.Shows family (observations.flatMap (Observation.addends family)) := by
  have holds := holds_of_recordAll recorded
  rcases holds.sorted_counters_eq (fun observation member => (whole observation member).texts)
    family with ⟨named, nodup, came, sorted⟩
  refine ⟨named, nodup, fun names => ?_, ?_⟩
  · rw [came, List.map_flatMap, List.map_flatMap, List.mem_flatMap, List.mem_flatMap]
    exact exists_congr fun observation => and_congr_right fun _ =>
      Observation.mem_addends_iff.symm
  · rw [counterLines, sorted, totalLines, List.map_map, List.map_map]
    congr 1
    refine List.map_congr_left fun names _ => ?_
    dsimp only [Function.comp]
    rw [foldl_plus, Int.zero_add, sum_addendsUnder]
    · rfl
    · intro addend member
      rcases List.mem_map.mp member with ⟨part, among, rfl⟩
      rcases List.mem_flatMap.mp (List.mem_of_mem_filter among) with ⟨observation, observed, counts⟩
      exact (whole observation observed).integers.named part counts

section Rows

variable (whole : ∀ observation ∈ observations, observation.Whole)
  (recorded : recordAll observe (ofBounds bounds) observations = .ok collector)

include whole recorded

/-- A counter has no row but those under which something was added. -/
theorem exists_of_mem_countersOf {family : CounterFamily} {row : List Label × Amount}
    (among : row ∈ collector.countersOf family) :
    ∃ observation ∈ observations, ∃ names ∈ (observation.addends family).map Prod.fst,
      row.1 = names.map .text := by
  have holds := holds_of_recordAll recorded
  rcases holds.sorted_counters_eq (fun observation member => (whole observation member).texts)
    family with ⟨named, _, came, sorted⟩
  have inSorted := (sorted_perm (collector.countersOf family)).mem_iff.mpr among
  rw [sorted] at inSorted
  rcases List.mem_map.mp inSorted with ⟨names, isNamed, rfl⟩
  have counts := (came names).mp isNamed
  rw [List.map_flatMap] at counts
  rcases List.mem_flatMap.mp counts with ⟨observation, observed, part⟩
  exact ⟨observation, observed, names, Observation.mem_addends_iff.mpr part, rfl⟩

/-- A histogram has no row but those under which something was measured. -/
theorem exists_of_mem_histogramsOf {family : HistogramFamily} {row : List Label × Histogram}
    (among : row ∈ collector.histogramsOf family) :
    ∃ observation ∈ observations, observation.histogramName.family = family ∧
      row.1 = observation.histogramName.labels.map .text := by
  have holds := holds_of_recordAll recorded
  rcases holds.sorted_histograms_eq (fun observation member => (whole observation member).texts)
    family with ⟨named, _, came, sorted⟩
  have inSorted := (sorted_perm (collector.histogramsOf family)).mem_iff.mpr among
  rw [sorted] at inSorted
  rcases List.mem_map.mp inSorted with ⟨names, isNamed, rfl⟩
  have measures := (came names).mp isNamed
  rw [List.map_map] at measures
  rcases List.mem_map.mp measures with ⟨observation, observed, same⟩
  have ofFamily : observation.histogramName = ⟨family, names⟩ := same
  exact ⟨observation, observed, by rw [ofFamily], by rw [ofFamily]⟩

end Rows

end Collector

end HybridSearch.Metrics
