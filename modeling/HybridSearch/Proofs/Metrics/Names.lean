import HybridSearch.Proofs.Metrics.Rows

/-! Series under names. Where labels are texts, the texts tell the series apart, so what is observed can
be listed under names, which are the same for every way of keeping metrics. -/

namespace HybridSearch.Metrics

namespace Observation

/-- What an observation adds to counters, under the texts of its labels. -/
def namedCounts (observation : Observation) : List (CounterSeries String × Json) :=
  (⟨observation.counter.family, observation.counter.labels.map Json.text⟩, .integer 1) ::
    (observation.results?.map fun (series, results) =>
      (⟨series.family, series.labels.map Json.text⟩, results)).toList

def histogramName (observation : Observation) : HistogramSeries String :=
  ⟨observation.histogram.family, observation.histogram.labels.map Json.text⟩

/-- What an observation adds to a histogram, under the texts of its labels. -/
def namedDuration (observation : Observation) : HistogramSeries String × Json :=
  (observation.histogramName, observation.duration)

end Observation

/-- What is added to a counter with a name. -/
def addendsUnder (series : CounterSeries String) (observations : List Observation) : List Json :=
  Keyed.partsOf (· = ·) series (observations.flatMap Observation.namedCounts)

/-- The observations whose durations are in a histogram with a name. -/
def measuredUnder (series : HistogramSeries String) (observations : List Observation) :
    List Observation :=
  observations.filter fun observation => observation.histogramName = series

/-! ## Names and labels -/

def CounterSeries.labelled (series : CounterSeries String) : CounterSeries Label :=
  ⟨series.family, series.labels.map .text⟩

theorem CounterSeries.alike_labelled (left right : CounterSeries String) :
    left.labelled.Alike right.labelled ↔ left = right := by
  rcases left with ⟨leftFamily, left⟩
  rcases right with ⟨rightFamily, right⟩
  simp only [Alike, labelled, SeriesRows.alike_texts, mk.injEq]

theorem CounterSeries.exists_labelled_iff {keys : List (CounterSeries String)}
    {family : CounterFamily} {labels : List Label} :
    (∃ key ∈ keys, key.labelled.Alike ⟨family, labels⟩) ↔
      ∃ names, ⟨family, names⟩ ∈ keys ∧ Label.Alike (names.map .text) labels := by
  constructor
  · rintro ⟨⟨own, names⟩, came, rfl, alike⟩
    exact ⟨names, came, alike⟩
  · rintro ⟨names, came, alike⟩
    exact ⟨_, came, rfl, alike⟩

def CounterSeries.namesIn (family : CounterFamily) (series : CounterSeries String) :
    Option (List String) :=
  if series.family = family then some series.labels else none

theorem CounterSeries.namesIn_eq_some_iff {family : CounterFamily} {series : CounterSeries String}
    {names : List String} : series.namesIn family = some names ↔ series = ⟨family, names⟩ := by
  rcases series with ⟨own, labels⟩
  simp [namesIn]

def HistogramSeries.labelled (series : HistogramSeries String) : HistogramSeries Label :=
  ⟨series.family, series.labels.map .text⟩

theorem HistogramSeries.alike_labelled (left right : HistogramSeries String) :
    left.labelled.Alike right.labelled ↔ left = right := by
  rcases left with ⟨leftFamily, left⟩
  rcases right with ⟨rightFamily, right⟩
  simp only [Alike, labelled, SeriesRows.alike_texts, mk.injEq]

theorem HistogramSeries.exists_labelled_iff {keys : List (HistogramSeries String)}
    {family : HistogramFamily} {labels : List Label} :
    (∃ key ∈ keys, key.labelled.Alike ⟨family, labels⟩) ↔
      ∃ names, ⟨family, names⟩ ∈ keys ∧ Label.Alike (names.map .text) labels := by
  constructor
  · rintro ⟨⟨own, names⟩, came, rfl, alike⟩
    exact ⟨names, came, alike⟩
  · rintro ⟨names, came, alike⟩
    exact ⟨_, came, rfl, alike⟩

def HistogramSeries.namesIn (family : HistogramFamily) (series : HistogramSeries String) :
    Option (List String) :=
  if series.family = family then some series.labels else none

theorem HistogramSeries.namesIn_eq_some_iff {family : HistogramFamily}
    {series : HistogramSeries String} {names : List String} :
    series.namesIn family = some names ↔ series = ⟨family, names⟩ := by
  rcases series with ⟨own, labels⟩
  simp [namesIn]

namespace Observation

variable {observation : Observation} (texts : observation.HasTextLabels)

include texts

theorem HasTextLabels.histogramKey_eq :
    observation.histogramKey = observation.histogramName.labelled := by
  rw [Observation.histogramKey, labelsOf_eq (labels?_of_texts texts.histogram)]
  rfl

theorem HasTextLabels.counted_eq :
    observation.counted = observation.namedCounts.map (Prod.map CounterSeries.labelled id) := by
  have results : (observation.results?.map fun (series, results) =>
      (CounterSeries.mk series.family (labelsOf series.labels), results)) =
      (observation.results?.map fun (series, results) =>
        (CounterSeries.mk series.family (series.labels.map Json.text), results)).map
          (Prod.map CounterSeries.labelled id) := by
    rw [Option.map_map]
    refine Option.map_congr fun found given => ?_
    dsimp only [Function.comp, Prod.map]
    rw [labelsOf_eq (labels?_of_texts (texts.results given))]
    rfl
  rw [Observation.counted, results, Observation.counterKey, labelsOf_eq (labels?_of_texts texts),
    Option.toList_map]
  rfl

end Observation

/-! ## Rows -/

section InMemory

variable {collector : Collector} {bounds : List Json} {observations : List Observation}
  (texts : ∀ observation ∈ observations, observation.HasTextLabels)

include texts

theorem Collector.Holds.sorted_counters_eq {measured : List (HistogramSeries Label × String × Float)}
    (holds : collector.Holds bounds (observations.flatMap Observation.counted) measured)
    (family : CounterFamily) :
    ∃ named : List (List String), named.Nodup ∧
      (∀ names, names ∈ named ↔
        ⟨family, names⟩ ∈ (observations.flatMap Observation.namedCounts).map Prod.fst) ∧
      Collector.sorted (collector.countersOf family) = named.map fun names =>
        (names.map .text,
          (addendsUnder ⟨family, names⟩ observations).foldl plus (.integer 0)) := by
  have counted : observations.flatMap Observation.counted =
      (observations.flatMap Observation.namedCounts).map (Prod.map CounterSeries.labelled id) := by
    rw [List.map_flatMap]
    exact List.flatMap_congr fun observation member => (texts observation member).counted_eq
  simp only [addendsUnder]
  generalize observations.flatMap Observation.namedCounts = arrivals at counted ⊢
  rw [counted] at holds
  have series : SeriesRows (fun labels => ∃ names, ⟨family, names⟩ ∈ arrivals.map Prod.fst ∧
      Label.Alike (names.map .text) labels)
      ((Collector.sorted (collector.countersOf family)).map Prod.fst) := by
    refine (holds.counterRows family).congr fun labels => ?_
    rw [← CounterSeries.exists_labelled_iff]
    simp only [List.mem_map, exists_exists_and_eq_and, Prod.map_fst]
  rcases series.exists_names with ⟨named, rows, nodup, came⟩
  refine ⟨named, nodup, came, ?_⟩
  rw [Keyed.eq_map_fst (fun labels => (Keyed.partsOf CounterSeries.Alike ⟨family, labels⟩
    (arrivals.map (Prod.map CounterSeries.labelled id))).foldl plus (.integer 0))
    fun row member => holds.counter_eq member, rows, List.map_map]
  refine List.map_congr_left fun names _ => Prod.ext rfl ?_
  exact congrArg (List.foldl plus _)
    (Keyed.partsOf_map CounterSeries.alike_labelled ⟨family, names⟩ arrivals)

theorem Collector.Holds.sorted_histograms_eq {counted : List (CounterSeries Label × Json)}
    (holds : collector.Holds bounds counted (observations.map (Observation.measured bounds)))
    (family : HistogramFamily) :
    ∃ named : List (List String), named.Nodup ∧
      (∀ names, names ∈ named ↔
        ⟨family, names⟩ ∈ (observations.map Observation.namedDuration).map Prod.fst) ∧
      Collector.sorted (collector.histogramsOf family) = named.map fun names =>
        (names.map .text, (partsIn bounds (measuredUnder ⟨family, names⟩ observations)).foldl
          Histogram.addPart .empty) := by
  have series : SeriesRows (fun labels => ∃ names,
      ⟨family, names⟩ ∈ (observations.map Observation.namedDuration).map Prod.fst ∧
        Label.Alike (names.map .text) labels)
      ((Collector.sorted (collector.histogramsOf family)).map Prod.fst) := by
    refine (holds.histogramRows family).congr fun labels => ?_
    rw [← HistogramSeries.exists_labelled_iff]
    simp only [List.mem_map, exists_exists_and_eq_and]
    refine exists_congr fun observation => and_congr_right fun member => ?_
    rw [Observation.measured, (texts observation member).histogramKey_eq]
    rfl
  rcases series.exists_names with ⟨named, rows, nodup, came⟩
  refine ⟨named, nodup, came, ?_⟩
  rw [Keyed.eq_map_fst (fun labels => (partsIn bounds (observations.filter fun observation =>
      observation.histogramKey.Alike ⟨family, labels⟩)).foldl Histogram.addPart .empty)
    fun row member => holds.histogram_eq member, rows, List.map_map]
  refine List.map_congr_left fun names _ => Prod.ext rfl ?_
  dsimp only [Function.comp, measuredUnder]
  congr 2
  refine List.filter_congr fun observation member => ?_
  rw [(texts observation member).histogramKey_eq, decide_eq_decide]
  exact HistogramSeries.alike_labelled _ ⟨family, names⟩

end InMemory

end HybridSearch.Metrics
