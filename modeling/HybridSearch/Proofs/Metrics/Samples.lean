import HybridSearch.Proofs.Metrics.Names
import HybridSearch.Proofs.Metrics.Shown

/-! The samples of what was observed: one for each counter, and for each histogram one for each bound, the
sum and the count. The lines of metrics that are kept in memory show them. -/

namespace HybridSearch.Metrics

open Exposition (Sample Plain)

/-- The sample of what was counted under some names. -/
def counterSample (observations : List Observation) (family : CounterFamily) (names : List String) :
    Sample where
  name := family.presentation.name
  labels := family.presentation.labels.zip names
  value := ((addendsUnder ⟨family, names⟩ observations).foldl plus (.integer 0)).text

/-- The samples of a histogram under some names. -/
def samplesOfHistogram (bounds : List Json) (presentation : Presentation) (names : List String)
    (histogram : Histogram) : List Sample :=
  let labels := presentation.labels.zip names
  (histogram.cumulative 0 (bounds.map Json.text ++ [Histogram.lastBucket])).map
      (fun (bucket, total) =>
        ⟨presentation.name ++ "_bucket", labels ++ [("le", bucket)], toString total⟩) ++
    [⟨presentation.name ++ "_sum", labels, Number.twoPlaces histogram.sum⟩,
      ⟨presentation.name ++ "_count", labels, toString histogram.count⟩]

/-- The samples of what was measured under some names. -/
def histogramSamples (bounds : List Json) (observations : List Observation)
    (family : HistogramFamily) (names : List String) : List Sample :=
  samplesOfHistogram bounds family.presentation names
    ((partsIn bounds (measuredUnder ⟨family, names⟩ observations)).foldl Histogram.addPart .empty)

/-- The samples of some observations, those of each family in some order of the names under which
something came. -/
structure Recorded (bounds : List Json) (observations : List Observation)
    (samples : Family → List Sample) : Prop where
  counters : ∀ family, ∃ rows : List (List String), rows.Nodup ∧
    (∀ names, names ∈ rows ↔
      ⟨family, names⟩ ∈ (observations.flatMap Observation.namedCounts).map Prod.fst) ∧
    samples (.counter family) = rows.map (counterSample observations family)
  histograms : ∀ family, ∃ rows : List (List String), rows.Nodup ∧
    (∀ names, names ∈ rows ↔
      ⟨family, names⟩ ∈ (observations.map Observation.namedDuration).map Prod.fst) ∧
    samples (.histogram family) = rows.flatMap (histogramSamples bounds observations family)

/-- The comments before the samples of a family. -/
def Family.heading : Family → List String
  | .counter family => Collector.heading family.presentation "counter"
  | .histogram family => Collector.heading family.presentation "histogram"

/-! ## Names -/

theorem Observation.length_labels_of_namedCounts {observation : Observation}
    {part : CounterSeries String × Json} (member : part ∈ observation.namedCounts) :
    part.1.labels.length = part.1.family.presentation.labels.length := by
  rcases observation with _ | ⟨mode, parallel, _ | _, duration, found⟩ | _ <;>
    simp [namedCounts, counter, results?] at member <;> rcases member with rfl | rfl <;> rfl

theorem Observation.length_labels_of_histogramName (observation : Observation) :
    observation.histogramName.labels.length =
      observation.histogramName.family.presentation.labels.length := by
  cases observation <;> rfl

theorem CounterFamily.isName_labels (family : CounterFamily) :
    ∀ label ∈ family.presentation.labels,
      Exposition.isName Exposition.isLabelLetter label.toList = true := by
  cases family <;> decide

theorem CounterFamily.isName_name (family : CounterFamily) :
    Exposition.isName Exposition.isSeriesLetter family.presentation.name.toList = true := by
  cases family <;> decide

theorem HistogramFamily.isName_labels (family : HistogramFamily) :
    ∀ label ∈ family.presentation.labels,
      Exposition.isName Exposition.isLabelLetter label.toList = true := by
  cases family <;> decide

theorem HistogramFamily.isName_name (family : HistogramFamily) :
    ∀ ending ∈ ["_bucket", "_sum", "_count"], Exposition.isName Exposition.isSeriesLetter
      (family.presentation.name ++ ending).toList = true := by
  cases family <;> decide

theorem Family.isComment_heading (family : Family) :
    ∀ line ∈ family.heading, Exposition.IsComment line := by
  cases family with
  | counter family => cases family <;> decide +kernel
  | histogram family => cases family <;> decide +kernel

/-! ## Samples -/

theorem proper_counterSample (observations : List Observation) (family : CounterFamily)
    (names : List String) : (counterSample observations family names).Proper where
  name := family.isName_name
  labels label member := family.isName_labels label.1 (List.of_mem_zip member).1
  value := Amount.isSome_readPlain?_text _

theorem proper_samplesOfHistogram (bounds : List Json) (family : HistogramFamily)
    (names : List String) (histogram : Histogram) :
    ∀ sample ∈ samplesOfHistogram bounds family.presentation names histogram, sample.Proper := by
  have labels : ∀ label ∈ family.presentation.labels.zip names,
      Exposition.isName Exposition.isLabelLetter label.1.toList = true :=
    fun label member => family.isName_labels label.1 (List.of_mem_zip member).1
  have name := family.isName_name
  intro sample member
  rcases List.mem_append.mp member with bucketSample | other
  · rcases List.mem_map.mp bucketSample with ⟨⟨bucket, total⟩, _, rfl⟩
    refine ⟨name "_bucket" (by simp), ?_, Number.isSome_readPlain?_natural total⟩
    intro label among
    rcases List.mem_append.mp among with own | bound
    · exact labels label own
    · rw [List.mem_singleton.mp bound]
      exact (by decide : Exposition.isName Exposition.isLabelLetter "le".toList = true)
  · simp only [List.mem_cons, List.not_mem_nil, or_false] at other
    rcases other with rfl | rfl
    · exact ⟨name "_sum" (by simp), labels, Number.isSome_readPlain?_twoPlaces _⟩
    · exact ⟨name "_count" (by simp), labels, Number.isSome_readPlain?_natural _⟩

theorem labelText_texts (labels names : List String) :
    Collector.labelText labels (names.map .text) =
      ",".intercalate ((labels.zip names).map fun label => label.1 ++ "=\"" ++ label.2 ++ "\"") := by
  rw [Collector.labelText, List.zip_map_right, List.map_map]
  rfl

theorem line_counterSample (observations : List Observation) (family : CounterFamily)
    (names : List String) :
    (counterSample observations family names).line =
      Collector.sample family.presentation.name
        (Collector.labelText family.presentation.labels (names.map .text))
        ((addendsUnder ⟨family, names⟩ observations).foldl plus (.integer 0)).text := by
  rw [labelText_texts]
  rfl

theorem intercalate_append_singleton {pieces : List String} (given : pieces ≠ []) (last : String) :
    ",".intercalate (pieces ++ [last]) = ",".intercalate pieces ++ "," ++ last := by
  induction pieces with
  | nil => exact absurd rfl given
  | cons piece rest induction =>
      cases rest with
      | nil => simp
      | cons next rest =>
          have later := induction (List.cons_ne_nil next rest)
          simp only [List.cons_append, String.intercalate_cons_cons, String.append_assoc] at later ⊢
          rw [later]

theorem map_line_samplesOfHistogram (bounds : List Json) {presentation : Presentation}
    {names : List String} (given : presentation.labels.zip names ≠ []) (histogram : Histogram) :
    (samplesOfHistogram bounds presentation names histogram).map Sample.line =
      Collector.histogramLines bounds presentation (names.map .text) histogram := by
  have bucketLabels (bucket : String) :
      ",".intercalate ((presentation.labels.zip names ++ [("le", bucket)]).map fun label =>
        label.1 ++ "=\"" ++ label.2 ++ "\"") =
      Collector.labelText presentation.labels (names.map .text) ++ ",le=\"" ++ bucket ++ "\"" := by
    have opening : ",le=\"" = "," ++ ("le" ++ "=\"") := rfl
    rw [List.map_append, List.map_singleton, intercalate_append_singleton (by simpa using given),
      labelText_texts, opening]
    simp only [String.append_assoc]
  rw [samplesOfHistogram, Collector.histogramLines, List.map_append, List.map_map]
  congr 1
  · apply List.map_congr_left
    intro bucket _
    simp only [Function.comp, Sample.line, Sample.written, id]
    rw [bucketLabels]
  · rw [labelText_texts]
    rfl

theorem Family.mem_all (family : Family) : family ∈ Family.all := by
  cases family with
  | counter family => cases family <;> decide
  | histogram family => cases family <;> decide

/-- The names under which something was measured are as many as the labels of the family. -/
theorem length_of_measured {observations : List Observation} {family : HistogramFamily}
    {names : List String}
    (came : ⟨family, names⟩ ∈ (observations.map Observation.namedDuration).map Prod.fst) :
    names.length = family.presentation.labels.length := by
  rw [List.map_map] at came
  rcases List.mem_map.mp came with ⟨observation, _, same⟩
  have named : observation.histogramName = ⟨family, names⟩ := same
  have length := observation.length_labels_of_histogramName
  rwa [named] at length

/-- The lines of metrics show some samples, after the comments of their families. -/
def Collector.Displays (collector : Collector) (samples : Family → List Sample) : Prop :=
  collector.lines = Family.all.flatMap fun family =>
    family.heading ++ (samples family).map Sample.line

/-- After a run, the lines of each family show the samples of what was observed. -/
theorem Collector.Holds.exists_recorded {collector : Collector} {bounds : List Json}
    {observations : List Observation}
    (texts : ∀ observation ∈ observations, observation.HasTextLabels)
    (holds : collector.Holds bounds (observations.flatMap Observation.counted)
      (observations.map (Observation.measured bounds))) :
    ∃ samples, Recorded bounds observations samples ∧ collector.Displays samples := by
  choose counted nodup came shown using holds.sorted_counters_eq texts
  choose measured nodupMeasured cameMeasured shownMeasured using holds.sorted_histograms_eq texts
  let samples : Family → List Sample
    | .counter family => (counted family).map (counterSample observations family)
    | .histogram family => (measured family).flatMap (histogramSamples bounds observations family)
  refine ⟨samples, ⟨fun family => ⟨_, nodup family, came family, rfl⟩,
    fun family => ⟨_, nodupMeasured family, cameMeasured family, rfl⟩⟩, ?_⟩
  apply List.flatMap_congr
  intro family _
  cases family with
  | counter family =>
      rw [familyLines, counterLines, shown, List.map_map, Family.heading, List.map_map]
      congr 1
      apply List.map_congr_left
      intro names _
      exact (line_counterSample observations family names).symm
  | histogram family =>
      rw [familyLines, shownMeasured, List.flatMap_map, Family.heading, List.map_flatMap]
      congr 1
      apply List.flatMap_congr
      intro names member
      have length := length_of_measured ((cameMeasured family names).mp member)
      have given : family.presentation.labels.zip names ≠ [] := by
        rw [← List.length_pos_iff, List.length_zip, length]
        cases family <;> decide
      rw [histogramSamples, map_line_samplesOfHistogram bounds given, holds.bounds_eq]

namespace Recorded

variable {bounds : List Json} {observations : List Observation} {samples : Family → List Sample}
  (recorded : Recorded bounds observations samples)

include recorded

theorem proper (family : Family) : ∀ sample ∈ samples family, sample.Proper := by
  intro sample member
  cases family with
  | counter family =>
      rcases recorded.counters family with ⟨rows, _, _, shown⟩
      rw [shown] at member
      rcases List.mem_map.mp member with ⟨names, _, rfl⟩
      exact proper_counterSample observations family names
  | histogram family =>
      rcases recorded.histograms family with ⟨rows, _, _, shown⟩
      rw [shown] at member
      rcases List.mem_flatMap.mp member with ⟨names, _, among⟩
      exact proper_samplesOfHistogram bounds family names _ sample among

theorem shows : Exposition.Shows
    (Family.all.flatMap fun family => family.heading ++ (samples family).map Sample.line)
    (Family.all.flatMap samples) := by
  apply Exposition.Shows.flatMap
  intro family _
  exact (Exposition.Shows.of_comments family.isComment_heading).append
    (.of_samples (recorded.proper family))

end Recorded

theorem Collector.Displays.text_eq {collector : Collector} {samples : Family → List Sample}
    (displays : collector.Displays samples) :
    collector.text = "\n".intercalate (Family.all.flatMap fun family =>
      family.heading ++ (samples family).map Sample.line) ++ "\n" := by
  rw [Collector.text, displays]

theorem flatMap_heading_ne_nil (samples : Family → List Sample) :
    (Family.all.flatMap fun family => family.heading ++ (samples family).map Sample.line) ≠ [] := by
  simp [Family.all, Family.heading, Collector.heading]

end HybridSearch.Metrics
