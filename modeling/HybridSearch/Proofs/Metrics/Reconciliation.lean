import Mathlib.Algebra.BigOperators.Ring.Finset
import HybridSearch.Proofs.Metrics.Rows

/-! Counters and histograms agree. Each observation adds one to a counter and one to a histogram, whose
labels are those of the counter without the last, so the counters that differ only in the last label
come to the count of the histogram. -/

namespace HybridSearch.Metrics

/-- The counter of the observations whose durations a histogram has. -/
def HistogramFamily.counter : HistogramFamily → CounterFamily
  | requests => .requests
  | searches => .searches
  | externalCalls => .externalCalls

theorem foldl_plus {parts : List Json}
    (whole : ∀ part ∈ parts, ∃ addend, part.amount? = some (.integer addend)) (total : Int) :
    parts.foldl plus (.integer total) = .integer (total + (parts.map wholeOf).sum) := by
  induction parts generalizing total with
  | nil => simp
  | cons part rest induction =>
      rw [List.forall_mem_cons] at whole
      rcases whole.1 with ⟨addend, isWhole⟩
      have step : plus (.integer total) part = .integer (total + wholeOf part) := by
        simp [plus, wholeOf, isWhole, Amount.add?]
      rw [List.foldl_cons, step, induction whole.2, List.map_cons, List.sum_cons, Int.add_assoc]

namespace Observation

theorem counter_family (observation : Observation) :
    observation.counterKey.family = observation.histogramKey.family.counter := by
  cases observation <;> rfl

theorem histogramKey_labels (observation : Observation) :
    observation.histogramKey.labels = observation.counterKey.labels.dropLast := by
  have split (values : List Json) (last : String) :
      labelsOf (values ++ [.string last]) = labelsOf values ++ [.text last] := by
    rw [labelsOf, List.filterMap_append]
    rfl
  cases observation with
  | request method path status duration =>
      exact (split [method, path] status ▸ List.dropLast_concat).symm
  | search mode parallel success duration results =>
      exact (split [mode, .string (strategyLabel parallel)] _ ▸ List.dropLast_concat).symm
  | external provider operation status duration =>
      exact (split [provider, operation] status ▸ List.dropLast_concat).symm

/-- The number of results that an observation adds to those under some labels: a search that succeeds
adds what it found. -/
def resultsUnder (labels : List Label) : Observation → Int
  | .search mode _ true _ results =>
      if Label.Alike (labelsOf [mode]) labels then wholeOf results else 0
  | _ => 0

/-- It is a search that succeeds, under some labels. -/
def SucceedsUnder (labels : List Label) : Observation → Prop
  | .search mode _ true _ _ => Label.Alike (labelsOf [mode]) labels
  | _ => False

theorem exists_counted_iff (observation : Observation) (family : HistogramFamily)
    (labels : List Label) :
    (∃ part ∈ observation.counted, part.1.Alike ⟨family.counter, labels⟩) ↔
      observation.counterKey.Alike ⟨family.counter, labels⟩ := by
  rcases observation with _ | ⟨mode, parallel, _ | _, duration, results⟩ | _ <;>
    cases family <;> simp [counted, results?, CounterSeries.Alike, HistogramFamily.counter]

theorem exists_counted_results_iff (observation : Observation) (labels : List Label) :
    (∃ part ∈ observation.counted, part.1.Alike ⟨.results, labels⟩) ↔
      observation.SucceedsUnder labels := by
  rcases observation with _ | ⟨mode, parallel, _ | _, duration, results⟩ | _ <;>
    simp [counted, results?, CounterSeries.Alike, counterKey, counter, SucceedsUnder]

theorem sum_counted (observation : Observation) (family : HistogramFamily) (labels : List Label) :
    ((Keyed.partsOf CounterSeries.Alike ⟨family.counter, labels⟩ observation.counted).map
      wholeOf).sum =
        if observation.counterKey.Alike ⟨family.counter, labels⟩ then 1 else 0 := by
  rcases observation with _ | ⟨mode, parallel, _ | _, duration, results⟩ | _ <;> cases family <;>
    simp [counted, results?, Keyed.partsOf, List.filter_cons, CounterSeries.Alike, counterKey,
      counter, HistogramFamily.counter, apply_ite, wholeOf, Json.amount?]

theorem sum_counted_results (observation : Observation) (labels : List Label) :
    ((Keyed.partsOf CounterSeries.Alike ⟨.results, labels⟩ observation.counted).map
      wholeOf).sum = observation.resultsUnder labels := by
  rcases observation with _ | ⟨mode, parallel, _ | _, duration, results⟩ | _ <;>
    simp [counted, results?, Keyed.partsOf, List.filter_cons, CounterSeries.Alike, counterKey,
      counter, resultsUnder]
  split <;> simp

end Observation

/-! ## Sums -/

section Sums

variable {observations : List Observation}

theorem sum_flatMap_counted (key : CounterSeries Label) (observations : List Observation) :
    ((Keyed.partsOf CounterSeries.Alike key (observations.flatMap Observation.counted)).map
        wholeOf).sum =
      (observations.map fun observation =>
        ((Keyed.partsOf CounterSeries.Alike key observation.counted).map wholeOf).sum).sum := by
  induction observations with
  | nil => rfl
  | cons observation rest induction =>
      rw [List.map_cons, List.sum_cons, ← induction]
      simp [Keyed.partsOf]

theorem sum_indicator {α : Type} (holds : α → Prop) [DecidablePred holds] (values : List α) :
    (values.map fun value => if holds value then (1 : Int) else 0).sum =
      values.countP fun value => holds value := by
  induction values with
  | nil => rfl
  | cons value rest induction =>
      rw [List.map_cons, List.sum_cons, List.countP_cons, induction]
      split <;> simp_all [Int.add_comm]

/-- Counting row by row comes to counting at once, where each value is counted in one row. -/
theorem sum_countP {α β : Type} {rows : List α} {values : List β} {under : β → α → Prop}
    [∀ value row, Decidable (under value row)] {counted : β → Prop} [DecidablePred counted]
    (once : ∀ value ∈ values, rows.countP (fun row => under value row) =
      if counted value then 1 else 0) :
    (rows.map fun row => values.countP fun value => under value row).sum =
      values.countP fun value => counted value := by
  induction values with
  | nil => simp
  | cons value rest induction =>
      rw [List.forall_mem_cons] at once
      have step : (rows.map fun row => (value :: rest).countP fun value => under value row).sum =
          (rows.map fun row => rest.countP fun value => under value row).sum +
            rows.countP fun row => under value row := by
        clear induction once
        induction rows with
        | nil => rfl
        | cons row others induction =>
            simp only [List.map_cons, List.sum_cons, List.countP_cons] at induction ⊢
            omega
      rw [step, induction once.2, once.1, List.countP_cons]
      simp

end Sums

namespace Collector

variable {collector : Collector} {bounds : List Json} {observations : List Observation}

/-- The lines of a counter with some rows. -/
def totalLines (family : CounterFamily) (rows : List (List Label × Int)) : List String :=
  heading family.presentation "counter" ++ rows.map fun row =>
    sample family.presentation.name (labelText family.presentation.labels row.1) (toString row.2)

/-- A counter whose addends are integers shows their sums. -/
theorem Holds.counterLines_eq
    (holds : collector.Holds bounds (observations.flatMap Observation.counted)
      (observations.map (Observation.measured bounds)))
    (whole : ∀ part ∈ observations.flatMap Observation.counted,
      ∃ addend, part.2.amount? = some (.integer addend)) (family : CounterFamily) :
    ∃ rows : List (List Label × Int),
      collector.counterLines family = totalLines family rows ∧
      SeriesRows (fun labels => ∃ part ∈ observations.flatMap Observation.counted,
        part.1.Alike ⟨family, labels⟩) (rows.map Prod.fst) ∧
      ∀ row ∈ rows, row.2 = (observations.map fun observation =>
        ((Keyed.partsOf CounterSeries.Alike ⟨family, row.1⟩ observation.counted).map
          wholeOf).sum).sum := by
  have value (row) (member : row ∈ sorted (collector.countersOf family)) :
      row.2 = .integer (observations.map fun observation =>
        ((Keyed.partsOf CounterSeries.Alike ⟨family, row.1⟩ observation.counted).map
          wholeOf).sum).sum := by
    rw [holds.counter_eq member, foldl_plus, Int.zero_add, sum_flatMap_counted]
    intro part among
    rcases List.mem_map.mp among with ⟨arrival, came, rfl⟩
    exact whole arrival (List.mem_of_mem_filter came)
  refine ⟨(sorted (collector.countersOf family)).map fun row =>
    (row.1, (observations.map fun observation =>
      ((Keyed.partsOf CounterSeries.Alike ⟨family, row.1⟩ observation.counted).map
        wholeOf).sum).sum), ?_, ?_, ?_⟩
  · rw [counterLines, totalLines, List.map_map]
    congr 1
    refine List.map_congr_left fun row member => ?_
    dsimp only [Function.comp]
    rw [value row member]
    rfl
  · rw [List.map_map]
    exact holds.counterRows family
  · intro row member
    rcases List.mem_map.mp member with ⟨_, _, rfl⟩
    rfl

/-- The counters that differ in the last label only come to the count of the histogram. -/
theorem sum_dropLast {family : HistogramFamily} {rows : List (List Label)}
    (series : SeriesRows (fun labels => ∃ observation ∈ observations,
      observation.counterKey.Alike ⟨family.counter, labels⟩) rows) (labels : List Label) :
    ((rows.filter fun row => Label.Alike row.dropLast labels).map fun row =>
        observations.countP (·.counterKey.Alike ⟨family.counter, row⟩)).sum =
      observations.countP (·.histogramKey.Alike ⟨family, labels⟩) := by
  have sameFamily (observation : Observation) :
      observation.counterKey.family = family.counter ↔
        observation.histogramKey.family = family := by
    rw [observation.counter_family]
    cases observation.histogramKey.family <;> cases family <;> simp [HistogramFamily.counter]
  refine sum_countP fun observation member => ?_
  rw [List.countP_filter]
  by_cases within : observation.histogramKey.Alike ⟨family, labels⟩
  · rw [if_pos within]
    rcases within with ⟨ofFamily, alike⟩
    rw [observation.histogramKey_labels] at alike
    have came : ∃ other ∈ observations, other.counterKey.Alike
        ⟨family.counter, observation.counterKey.labels⟩ :=
      ⟨observation, member, (sameFamily observation).mpr ofFamily,
        Label.alike_equivalence.refl _⟩
    rw [← series.countP_eq_one came]
    refine List.countP_congr fun row _ => ?_
    simp only [Bool.and_eq_true, decide_eq_true_eq]
    refine ⟨fun both => both.1.2, fun own => ⟨⟨(sameFamily observation).mpr ofFamily, own⟩, ?_⟩⟩
    exact Label.alike_equivalence.trans (Label.alike_equivalence.symm own.dropLast) alike
  · rw [if_neg within, List.countP_eq_zero]
    intro row _ both
    simp only [Bool.and_eq_true, decide_eq_true_eq] at both
    refine within ⟨(sameFamily observation).mp both.1.1, ?_⟩
    rw [observation.histogramKey_labels]
    exact Label.alike_equivalence.trans both.1.2.dropLast both.2

/-- A counter and a histogram show the same observations: each counter how many had its labels, and
each histogram as many as the counters together whose labels are its own and one more, which is a
status or an outcome. -/
structure Reconciled (collector : Collector) (observations : List Observation)
    (family : HistogramFamily) (counted : List (List Label × Int))
    (measured : List (List Label × Histogram)) : Prop where
  counterLines : collector.counterLines family.counter = totalLines family.counter counted
  histogramLines : collector.familyLines (.histogram family) =
    heading family.presentation "histogram" ++ measured.flatMap fun row =>
      Collector.histogramLines collector.bounds family.presentation row.1 row.2
  countedRows : SeriesRows (fun labels => ∃ observation ∈ observations,
    observation.counterKey.Alike ⟨family.counter, labels⟩) (counted.map Prod.fst)
  measuredRows : SeriesRows (fun labels => ∃ observation ∈ observations,
    observation.histogramKey.Alike ⟨family, labels⟩) (measured.map Prod.fst)
  counts : ∀ row ∈ counted,
    row.2 = observations.countP (·.counterKey.Alike ⟨family.counter, row.1⟩)
  sums : ∀ row ∈ measured,
    ((counted.filter fun other => Label.Alike other.1.dropLast row.1).map Prod.snd).sum = row.2.count
  shown : ∀ row ∈ measured,
    (Collector.histogramLines collector.bounds family.presentation row.1 row.2).getLast? =
      some (sample (family.presentation.name ++ "_count")
        (labelText family.presentation.labels row.1) (toString row.2.count))

/-- The results shown are those of the searches that succeeded. -/
structure ResultsCounted (collector : Collector) (observations : List Observation)
    (totals : List (List Label × Int)) : Prop where
  lines : collector.counterLines .results = totalLines .results totals
  rows : SeriesRows (fun labels => ∃ observation ∈ observations, observation.SucceedsUnder labels)
    (totals.map Prod.fst)
  sums : ∀ row ∈ totals,
    row.2 = (observations.map fun observation => observation.resultsUnder row.1).sum

section Holds

variable (holds : collector.Holds bounds (observations.flatMap Observation.counted)
    (observations.map (Observation.measured bounds)))
  (whole : ∀ part ∈ observations.flatMap Observation.counted,
    ∃ addend, part.2.amount? = some (.integer addend))

include holds whole

theorem Holds.exists_reconciled (family : HistogramFamily) :
    ∃ counted measured, Reconciled collector observations family counted measured := by
  rcases holds.counterLines_eq whole family.counter with ⟨counted, lines, series, totals⟩
  have rows : SeriesRows (fun labels => ∃ observation ∈ observations,
      observation.counterKey.Alike ⟨family.counter, labels⟩) (counted.map Prod.fst) := by
    refine series.congr fun labels => ?_
    simp only [List.mem_flatMap, ← Observation.exists_counted_iff]
    tauto
  have counts : ∀ row ∈ counted,
      row.2 = observations.countP (·.counterKey.Alike ⟨family.counter, row.1⟩) := by
    intro row member
    rw [totals row member, ← sum_indicator]
    simp only [Observation.sum_counted]
  refine ⟨counted, sorted (collector.histogramsOf family), lines, rfl, rows,
    (holds.histogramRows family).congr fun labels => ?_, counts, fun row member => ?_,
    fun row _ => ?_⟩
  · simp [Observation.measured]
  · have named : (counted.filter fun other => Label.Alike other.1.dropLast row.1).map Prod.snd =
        ((counted.map Prod.fst).filter fun labels => Label.Alike labels.dropLast row.1).map
          fun labels => (observations.countP (·.counterKey.Alike ⟨family.counter, labels⟩) : Int) := by
      rw [List.filter_map, List.map_map]
      exact List.map_congr_left fun other among => counts other (List.mem_of_mem_filter among)
    have total : row.2.count = observations.countP (·.histogramKey.Alike ⟨family, row.1⟩) := by
      rw [holds.histogram_eq member, Histogram.foldl_addPart, List.countP_eq_length_filter]
      simp [partsIn, Histogram.empty]
    rw [named, total, ← sum_dropLast rows, Nat.cast_list_sum, List.map_map]
    rfl
  · simp [histogramLines]

theorem Holds.exists_resultsCounted :
    ∃ totals, ResultsCounted collector observations totals := by
  rcases holds.counterLines_eq whole .results with ⟨totals, lines, series, sums⟩
  refine ⟨totals, lines, series.congr fun labels => ?_, fun row member => ?_⟩
  · simp only [List.mem_flatMap, ← Observation.exists_counted_results_iff]
    tauto
  · rw [sums row member]
    simp only [Observation.sum_counted_results]

end Holds

/-- Counters and histograms stay reconciled over any run of observations whose results are integers. -/
theorem counters_reconcile
    (recorded : recordAll observe (ofBounds bounds) observations = .ok collector)
    (whole : ∀ observation ∈ observations, ∀ series results,
      observation.results? = some (series, results) →
        ∃ count, results.amount? = some (.integer count)) :
    (∀ family, ∃ counted measured, Reconciled collector observations family counted measured) ∧
      (∃ totals, ResultsCounted collector observations totals) ∧
      ((∀ observation ∈ observations, observation.HasTextLabels) →
        collector.text? = .ok collector.text) := by
  have holds := holds_of_recordAll recorded
  have wholeParts : ∀ part ∈ observations.flatMap Observation.counted,
      ∃ addend, part.2.amount? = some (.integer addend) := by
    intro part member
    rcases List.mem_flatMap.mp member with ⟨observation, among, counts⟩
    rcases List.mem_cons.mp counts with rfl | results
    · exact ⟨1, rfl⟩
    · rcases List.mem_map.mp (Option.toList_map .. ▸ results) with ⟨⟨series, given⟩, found, rfl⟩
      exact whole observation among series given (Option.mem_toList.mp found)
  exact ⟨holds.exists_reconciled wholeParts, holds.exists_resultsCounted wholeParts,
    holds.text?_eq_ok⟩

theorem observedRun_whole : ∀ observation ∈ observedRun, ∀ series results,
    observation.results? = some (series, results) →
      ∃ count, results.amount? = some (.integer count) := by
  intro observation member series results given
  simp only [observedRun, List.mem_cons, List.not_mem_nil, or_false] at member
  rcases member with rfl | rfl | rfl | rfl <;> cases given <;> exact ⟨_, rfl⟩

theorem observedRun_reconciles :
    ∃ collector, recordAll observe (ofBounds observedBounds) observedRun = .ok collector ∧
      (∃ counted measured, Reconciled collector observedRun .searches counted measured) ∧
      ∃ totals, ResultsCounted collector observedRun totals := by
  rcases observedRun_recorded with ⟨collector, recorded⟩
  rcases counters_reconcile recorded observedRun_whole with ⟨reconciled, results, _⟩
  exact ⟨collector, recorded, reconciled .searches, results⟩

end Collector

end HybridSearch.Metrics
