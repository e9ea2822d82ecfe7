import HybridSearch.Proofs.Metrics.Histogram
import HybridSearch.Proofs.Sorting
import Mathlib.Data.Set.List

/-! The rows that are shown of a family: one for each of its series, sorted. -/

namespace HybridSearch.Metrics

/-- Rows of labels, one for each series of which something was observed. -/
structure SeriesRows (observed : List Label → Prop) (rows : List (List Label)) : Prop where
  apart : rows.Pairwise fun earlier later => ¬Label.Alike earlier later
  observed_iff : ∀ labels, (∃ row ∈ rows, Label.Alike labels row) ↔ observed labels

namespace SeriesRows

variable {observed : List Label → Prop} {rows others : List (List Label)}

theorem of_perm (series : SeriesRows observed rows) (perm : others.Perm rows) :
    SeriesRows observed others where
  apart := perm.symm.pairwise series.apart fun different also =>
    different (Label.alike_equivalence.symm also)
  observed_iff labels := by simp only [perm.mem_iff, series.observed_iff]

theorem congr {others : List Label → Prop} (series : SeriesRows observed rows)
    (same : ∀ labels, observed labels ↔ others labels) : SeriesRows others rows where
  apart := series.apart
  observed_iff labels := (series.observed_iff labels).trans (same labels)

/-- What was observed under some labels is in one row. -/
theorem countP_eq_one (series : SeriesRows observed rows) {labels : List Label}
    (came : observed labels) : (rows.countP fun row => Label.Alike labels row) = 1 := by
  have some := (series.observed_iff labels).mpr came
  have apart := series.apart
  clear series
  induction rows with
  | nil => simp at some
  | cons row rest induction =>
      rw [List.pairwise_cons] at apart
      rw [List.countP_cons]
      by_cases alike : Label.Alike labels row
      · have none : (rest.countP fun row => Label.Alike labels row) = 0 := by
          refine List.countP_eq_zero.mpr fun other member also => apart.1 other member ?_
          exact Label.alike_equivalence.trans (Label.alike_equivalence.symm alike)
            (of_decide_eq_true also)
        simp [alike, none]
      · simp only [List.mem_cons, exists_eq_or_imp, alike, false_or] at some
        simp [alike, induction some apart.2]

/-- The rows of a family are those of the keys from which a row is read. -/
theorem of_tally {κ ι α : Type} {alike : κ → κ → Prop} [DecidableRel alike]
    {add : α → ι → α} {default : α} {arrivals : List (κ × ι)} {table : Keyed κ α}
    (equivalence : Equivalence alike) (tally : table.Tally alike add default arrivals)
    (row? : κ → Option (List Label)) (key : List Label → κ)
    (reads : ∀ labels known, alike (key labels) known ↔
      ∃ row, row? known = some row ∧ Label.Alike labels row)
    (written : ∀ known row, row? known = some row → known = key row) :
    SeriesRows (fun labels => ∃ arrival ∈ arrivals, alike arrival.1 (key labels))
      (table.keys.filterMap row?) where
  apart := by
    rw [List.pairwise_filterMap]
    refine tally.apart.imp fun different row read other otherRead same => different ?_
    rw [written _ row read]
    exact (reads row _).mpr ⟨other, otherRead, same⟩
  observed_iff labels := by
    rw [← tally.exists_known_iff equivalence]
    constructor
    · rintro ⟨row, member, same⟩
      rcases List.mem_filterMap.mp member with ⟨known, among, read⟩
      exact ⟨known, among, (reads labels known).mpr ⟨row, read, same⟩⟩
    · rintro ⟨known, among, same⟩
      rcases (reads labels known).mp same with ⟨row, read, alike⟩
      exact ⟨row, List.mem_filterMap.mpr ⟨known, among, read⟩, alike⟩

/-- Rows that are like rows of texts are these. -/
theorem isText (series : SeriesRows observed rows)
    (texts : ∀ labels, observed labels →
      ∃ came, (∀ label ∈ came, label.isText = true) ∧ Label.Alike came labels) :
    ∀ row ∈ rows, ∀ label ∈ row, label.isText = true := by
  intro row member
  rcases texts row ((series.observed_iff row).mp ⟨row, member, Label.alike_equivalence.refl row⟩)
    with ⟨came, areTexts, alike⟩
  exact (Label.alike_iff_eq areTexts).mp alike ▸ areTexts

theorem alike_texts {left right : List String} :
    Label.Alike (left.map .text) (right.map .text) ↔ left = right := by
  rw [Label.alike_iff_eq (by simp [Label.isText])]
  exact (List.map_injective_iff.mpr fun _ _ same => Label.text.inj same).eq_iff

/-- Rows of texts are given by the texts. -/
theorem exists_names {came : List String → Prop}
    (series : SeriesRows
      (fun labels => ∃ names, came names ∧ Label.Alike (names.map .text) labels) rows) :
    ∃ named : List (List String), rows = named.map (List.map .text) ∧ named.Nodup ∧
      ∀ names, names ∈ named ↔ came names := by
  have texts : rows ∈ Set.range (List.map (List.map Label.text)) := by
    rw [Set.range_list_map]
    intro row member
    rcases (series.observed_iff row).mp ⟨row, member, Label.alike_equivalence.refl row⟩ with
      ⟨names, _, alike⟩
    exact ⟨names, (Label.alike_iff_eq (by simp [Label.isText])).mp alike⟩
  rcases texts with ⟨named, rfl⟩
  refine ⟨named, rfl, ?_, fun names => ?_⟩
  · have apart := series.apart
    rw [List.pairwise_map] at apart
    refine apart.imp ?_
    rintro names _ different rfl
    exact different (.inl rfl)
  · have observed := series.observed_iff (names.map .text)
    simpa [alike_texts] using observed

end SeriesRows

namespace Collector

theorem sorted_perm {α : Type} (series : List (List Label × α)) : (sorted series).Perm series :=
  sortBy_perm ..

section Holds

variable {collector : Collector} {bounds : List Json} {counted : List (CounterSeries Label × Json)}
  {measured : List (HistogramSeries Label × String × Float)}

theorem Holds.counterRows (holds : collector.Holds bounds counted measured)
    (family : CounterFamily) :
    SeriesRows (fun labels => ∃ arrival ∈ counted, arrival.1.Alike ⟨family, labels⟩)
      ((sorted (collector.countersOf family)).map Prod.fst) := by
  refine SeriesRows.of_perm ?_ ((sorted_perm _).map Prod.fst)
  have rows : (collector.countersOf family).map Prod.fst = collector.counters.keys.filterMap
      fun series => if series.family = family then some series.labels else none := by
    rw [countersOf, List.map_filterMap, Keyed.keys, List.filterMap_map]
    congr 1
    funext entry
    dsimp only [Function.comp]
    split <;> rfl
  rw [rows]
  refine .of_tally CounterSeries.alike_equivalence holds.counters _ (CounterSeries.mk family)
    (fun labels known => ?_) (fun known row => ?_)
  · simp [CounterSeries.Alike, eq_comm]
  · simp only [Option.ite_none_right_eq_some, Option.some.injEq, and_imp]
    rintro rfl rfl
    rfl

theorem Holds.histogramRows (holds : collector.Holds bounds counted measured)
    (family : HistogramFamily) :
    SeriesRows (fun labels => ∃ arrival ∈ measured, arrival.1.Alike ⟨family, labels⟩)
      ((sorted (collector.histogramsOf family)).map Prod.fst) := by
  refine SeriesRows.of_perm ?_ ((sorted_perm _).map Prod.fst)
  have rows : (collector.histogramsOf family).map Prod.fst = collector.histograms.keys.filterMap
      fun series => if series.family = family then some series.labels else none := by
    rw [histogramsOf, List.map_filterMap, Keyed.keys, List.filterMap_map]
    congr 1
    funext entry
    dsimp only [Function.comp]
    split <;> rfl
  rw [rows]
  refine .of_tally HistogramSeries.alike_equivalence holds.histograms _ (HistogramSeries.mk family)
    (fun labels known => ?_) (fun known row => ?_)
  · simp [HistogramSeries.Alike, eq_comm]
  · simp only [Option.ite_none_right_eq_some, Option.some.injEq, and_imp]
    rintro rfl rfl
    rfl

theorem Holds.counter_eq (holds : collector.Holds bounds counted measured)
    {family : CounterFamily} {row : List Label × Amount}
    (member : row ∈ sorted (collector.countersOf family)) :
    row.2 = (Keyed.partsOf CounterSeries.Alike ⟨family, row.1⟩ counted).foldl plus
      (.integer 0) := by
  rcases List.mem_filterMap.mp ((sorted_perm _).mem_iff.mp member) with ⟨entry, among, picked⟩
  rw [Option.ite_none_right_eq_some, Option.some.injEq] at picked
  rcases picked with ⟨rfl, rfl⟩
  exact holds.counters.total entry among

theorem Holds.histogram_eq {observations : List Observation}
    (holds : collector.Holds bounds counted (observations.map (Observation.measured bounds)))
    {family : HistogramFamily} {row : List Label × Histogram}
    (member : row ∈ sorted (collector.histogramsOf family)) :
    row.2 = (partsIn bounds (observations.filter (·.histogramKey.Alike ⟨family, row.1⟩))).foldl
      Histogram.addPart .empty := by
  rcases List.mem_filterMap.mp ((sorted_perm _).mem_iff.mp member) with ⟨entry, among, picked⟩
  rw [Option.ite_none_right_eq_some, Option.some.injEq] at picked
  rcases picked with ⟨rfl, rfl⟩
  rw [holds.histograms.total entry among, Keyed.partsOf, List.filter_map, List.map_map]
  rfl

end Holds

/-! Rows of texts have an order, so metrics with texts as their labels can be shown. -/

theorem sortingFailure?_eq_none {rows : List (List Label)}
    (texts : ∀ row ∈ rows, ∀ label ∈ row, label.isText = true) : sortingFailure? rows = none := by
  rw [sortingFailure?, if_pos]
  simpa only [List.all_eq_true] using texts

theorem Holds.text?_eq_ok {collector : Collector} {bounds : List Json}
    {observations : List Observation}
    (holds : collector.Holds bounds (observations.flatMap Observation.counted)
      (observations.map (Observation.measured bounds)))
    (texts : ∀ observation ∈ observations, observation.HasTextLabels) :
    collector.text? = .ok collector.text := by
  have counters (family : CounterFamily) :
      sortingFailure? ((collector.countersOf family).map Prod.fst) = none := by
    refine sortingFailure?_eq_none <| ((holds.counterRows family).of_perm
      ((sorted_perm _).map Prod.fst).symm).isText ?_
    rintro labels ⟨part, arrived, alike⟩
    rcases List.mem_flatMap.mp arrived with ⟨observation, observed, counts⟩
    exact ⟨part.1.labels, (texts observation observed).counted counts, alike.2⟩
  have histograms (family : HistogramFamily) :
      sortingFailure? ((collector.histogramsOf family).map Prod.fst) = none := by
    refine sortingFailure?_eq_none <| ((holds.histogramRows family).of_perm
      ((sorted_perm _).map Prod.fst).symm).isText ?_
    rintro labels ⟨part, arrived, alike⟩
    rcases List.mem_map.mp arrived with ⟨observation, observed, rfl⟩
    exact ⟨_, (texts observation observed).histogramKey, alike.2⟩
  have none : Family.all.findSome? collector.familyFailure? = none := by
    rw [List.findSome?_eq_none_iff]
    intro family _
    cases family with
    | counter family => exact counters family
    | histogram family => exact histograms family
  rw [text?, none]

end Collector

end HybridSearch.Metrics
