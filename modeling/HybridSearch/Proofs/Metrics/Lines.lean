import HybridSearch.Proofs.Metrics.Rows

/-! The lines of a histogram say what was measured: one number for each bound, and the number of all
durations. -/

namespace HybridSearch.Metrics

namespace Collector

/-- The lines of a series in which some observations were measured. -/
def measurementLines (bounds : List Json) (family : HistogramFamily) (row : List Label)
    (observations : List Observation) : List String :=
  let name := family.presentation.name
  let labels := labelText family.presentation.labels row
  (bounds.map fun bound => sample (name ++ "_bucket") (labels ++ ",le=\"" ++ bound.text ++ "\"")
      (toString (observations.countP (·.Within bound)))) ++
    [sample (name ++ "_bucket") (labels ++ ",le=\"" ++ "+Inf" ++ "\"") (toString observations.length),
      sample (name ++ "_sum") labels
        (Number.twoPlaces ((observations.map Observation.number).foldl (· + ·) 0.0)),
      sample (name ++ "_count") labels (toString observations.length)]

theorem histogramLines_eq {bounds : List Json} (ascending : Ascending bounds)
    {observations : List Observation}
    (numeric : ∀ observation ∈ observations, observation.duration.amount?.isSome = true)
    (family : HistogramFamily) (row : List Label) :
    histogramLines bounds family.presentation row
        ((partsIn bounds observations).foldl Histogram.addPart .empty) =
      measurementLines bounds family row observations := by
  rw [histogramLines, cumulative_eq ascending numeric, measurementLines]
  rw [Histogram.foldl_addPart]
  simp [partsIn, Histogram.empty, Histogram.lastBucket, Function.comp_def]

/-- The lines of a histogram are true. After any run of observations there are lines for the series in
which something was measured, and for no others. The line of a bound shows how many of the durations
of its series do not exceed the bound, the last of these lines and the count show how many there are,
and no line shows less than the one before. -/
theorem histogram_lines_true {bounds : List Json} (ascending : Ascending bounds)
    {observations : List Observation}
    (numeric : ∀ observation ∈ observations, observation.duration.amount?.isSome = true)
    {collector : Collector}
    (recorded : recordAll observe (ofBounds bounds) observations = .ok collector)
    (family : HistogramFamily) :
    (∃ rows, SeriesRows
        (fun labels => ∃ observation ∈ observations,
          observation.histogramKey.Alike ⟨family, labels⟩) rows ∧
      collector.familyLines (.histogram family) =
        heading family.presentation "histogram" ++ rows.flatMap fun row =>
          measurementLines collector.bounds family row
            (observations.filter (·.histogramKey.Alike ⟨family, row⟩))) ∧
      collector.bounds = (if bounds.isEmpty then defaultBounds else bounds) ∧
      (∀ measured : List Observation, measured ⊆ observations →
        ((collector.bounds.map fun bound => measured.countP (·.Within bound)) ++
          [measured.length]).Pairwise (· ≤ ·)) ∧
      ((∀ observation ∈ observations, observation.HasTextLabels) →
        collector.text? = .ok collector.text) := by
  have holds := holds_of_recordAll recorded
  have bounds_eq := holds.bounds_eq
  have effective := ascending.ofBounds
  rw [← bounds_eq] at holds effective
  refine ⟨⟨_, (holds.histogramRows family).congr fun labels => ?_, ?_⟩, bounds_eq,
    fun measured among => ?_, holds.text?_eq_ok⟩
  · simp [Observation.measured]
  · rw [familyLines, List.flatMap_map]
    congr 1
    refine List.flatMap_congr fun row member => ?_
    dsimp only
    rw [holds.histogram_eq member]
    exact histogramLines_eq effective
      (fun observation among => numeric observation (List.mem_of_mem_filter among)) family row.1
  · rw [List.pairwise_append]
    refine ⟨?_, List.pairwise_singleton _ _, ?_⟩
    · rw [List.pairwise_map]
      refine effective.ordered.imp_of_mem fun {lower upper} lowerMember upperMember less => ?_
      refine List.countP_mono_left fun observation member within => ?_
      simp only [decide_eq_true_eq] at within ⊢
      exact Observation.within_of_less (numeric observation (among member))
        (effective.numeric lower lowerMember) (effective.numeric upper upperMember) less within
    · intro shown member total isTotal
      rcases List.mem_map.mp member with ⟨bound, _, rfl⟩
      rw [List.mem_singleton.mp isTotal]
      exact List.countP_le_length

theorem observedBounds_ascending : Ascending observedBounds := by
  constructor <;> decide +kernel

theorem observedRun_histogram_lines :
    ∃ collector, recordAll observe (ofBounds observedBounds) observedRun = .ok collector ∧
      ∃ rows, SeriesRows (fun labels => ∃ observation ∈ observedRun,
          observation.histogramKey.Alike ⟨.searches, labels⟩) rows ∧
        collector.familyLines (.histogram .searches) =
          heading HistogramFamily.searches.presentation "histogram" ++ rows.flatMap fun row =>
            measurementLines collector.bounds .searches row
              (observedRun.filter (·.histogramKey.Alike ⟨.searches, row⟩)) := by
  rcases observedRun_recorded with ⟨collector, recorded⟩
  exact ⟨collector, recorded,
    (histogram_lines_true observedBounds_ascending observedRun_numeric recorded .searches).1⟩

end Collector

end HybridSearch.Metrics
