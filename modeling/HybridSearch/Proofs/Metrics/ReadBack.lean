import HybridSearch.Proofs.Metrics.Samples
import HybridSearch.Proofs.Metrics.Totals

/-! The text of metrics that are kept in memory is read back where no label has a quote, a backslash or
the end of a line. Labels are not escaped there, so with any of these the text shows something else. -/

namespace HybridSearch.Metrics

open Exposition (Sample Plain)

/-- No label of an observation has a character that must be escaped. -/
def Observation.HasPlainLabels (observation : Observation) : Prop :=
  ∀ label ∈ observation.counter.labels, Plain label.text

instance : DecidablePred Observation.HasPlainLabels :=
  fun observation => inferInstanceAs
    (Decidable (∀ label ∈ observation.counter.labels, Plain label.text))

/-! ## Plain labels -/

theorem Observation.mem_counter_labels_of_namedCounts {observation : Observation}
    {part : CounterSeries String × Json} (member : part ∈ observation.namedCounts) :
    part.1.labels ⊆ observation.counter.labels.map Json.text := by
  rcases observation with _ | ⟨mode, parallel, _ | _, duration, found⟩ | _ <;>
    simp [namedCounts, counter, results?] at member <;> rcases member with rfl | rfl <;> simp [counter]

theorem Observation.histogramName_labels_subset (observation : Observation) :
    observation.histogramName.labels ⊆ observation.counter.labels.map Json.text := by
  cases observation <;> simp [histogramName, histogram, counter]

/-- No bound is written with a character that must be escaped. -/
theorem plain_text_of_numeric {bound : Json} (numeric : bound.amount?.isSome = true) :
    Plain bound.text := by
  cases bound with
  | bool value =>
      rw [Json.text_bool]
      cases value <;> decide
  | integer value =>
      rw [Json.text_integer]
      exact Exposition.plain_of_isNumber (Number.isSome_readPlain?_repr value)
  | float value =>
      rw [Json.text_float]
      exact Exposition.plain_of_isNumber (Number.isSome_readPlain?_text value)
  | _ => cases numeric

theorem Histogram.map_fst_cumulative (histogram : Histogram) (before : Nat) (buckets : List String) :
    (histogram.cumulative before buckets).map Prod.fst = buckets := by
  induction buckets generalizing before with
  | nil => rfl
  | cons bucket rest induction => rw [cumulative, List.map_cons, induction]

theorem Observation.HasPlainLabels.plain {observation : Observation}
    (plain : observation.HasPlainLabels) {names : List String}
    (among : names ⊆ observation.counter.labels.map Json.text) {labels : List String} :
    ∀ label ∈ labels.zip names, Plain label.2 := by
  intro label member
  rcases List.mem_map.mp (among (List.of_mem_zip member).2) with ⟨value, given, written⟩
  exact written ▸ plain value given

/-- A histogram shows the labels of its names and the bounds of its buckets. -/
theorem isPlain_samplesOfHistogram {bounds : List Json}
    (numeric : ∀ bound ∈ bounds, bound.amount?.isSome = true) {presentation : Presentation}
    {names : List String} (plain : ∀ label ∈ presentation.labels.zip names, Plain label.2)
    (histogram : Histogram) :
    ∀ sample ∈ samplesOfHistogram bounds presentation names histogram, sample.IsPlain := by
  intro sample member
  rcases List.mem_append.mp member with bucketSample | other
  · rcases List.mem_map.mp bucketSample with ⟨⟨bucket, total⟩, among, rfl⟩
    intro label isLabel
    rcases List.mem_append.mp isLabel with own | isBound
    · exact plain label own
    · have shown := List.mem_map_of_mem (f := Prod.fst) among
      rw [histogram.map_fst_cumulative] at shown
      rw [List.mem_singleton.mp isBound]
      change Plain bucket
      rcases List.mem_append.mp shown with given | last
      · rcases List.mem_map.mp given with ⟨bound, boundMember, written⟩
        have isBound : bound.text = bucket := written
        rw [← isBound]
        exact plain_text_of_numeric (numeric bound boundMember)
      · have isLast : bucket = Histogram.lastBucket := List.mem_singleton.mp last
        rw [isLast]
        decide
  · simp only [List.mem_cons, List.not_mem_nil, or_false] at other
    rcases other with rfl | rfl
    · exact plain
    · exact plain

namespace Recorded

variable {bounds : List Json} {observations : List Observation} {samples : Family → List Sample}
  (recorded : Recorded bounds observations samples)

include recorded

/-- All labels of observations are shown. -/
theorem hasPlainLabels (plain : ∀ sample ∈ Family.all.flatMap samples, sample.IsPlain) :
    ∀ observation ∈ observations, observation.HasPlainLabels := by
  intro observation observed value given
  have counts : ⟨observation.counter.family, observation.counter.labels.map Json.text⟩ ∈
      (observations.flatMap Observation.namedCounts).map Prod.fst :=
    List.mem_map.mpr ⟨_, List.mem_flatMap.mpr ⟨observation, observed, List.mem_cons_self ..⟩, rfl⟩
  rcases recorded.counters observation.counter.family with ⟨rows, _, came, shown⟩
  have member : counterSample observations observation.counter.family
      (observation.counter.labels.map Json.text) ∈ Family.all.flatMap samples := by
    apply List.mem_flatMap.mpr
    refine ⟨_, Family.mem_all (.counter observation.counter.family), ?_⟩
    rw [shown]
    exact List.mem_map_of_mem ((came _).mpr counts)
  have length : (observation.counter.labels.map Json.text).length =
      observation.counter.family.presentation.labels.length :=
    Observation.length_labels_of_namedCounts (List.mem_cons_self ..)
  have labelled : value.text ∈ (observation.counter.family.presentation.labels.zip
      (observation.counter.labels.map Json.text)).map Prod.snd := by
    rw [List.map_snd_zip (Nat.le_of_eq length)]
    exact List.mem_map_of_mem given
  rcases List.mem_map.mp labelled with ⟨label, among, written⟩
  exact written ▸ plain _ member label among

/-- All labels that are shown are those of observations or bounds of buckets. -/
theorem isPlain (numeric : ∀ bound ∈ bounds, bound.amount?.isSome = true)
    (plain : ∀ observation ∈ observations, observation.HasPlainLabels) :
    ∀ sample ∈ Family.all.flatMap samples, sample.IsPlain := by
  intro sample member
  rcases List.mem_flatMap.mp member with ⟨family, _, among⟩
  cases family with
  | counter family =>
      rcases recorded.counters family with ⟨rows, _, came, shown⟩
      rw [shown] at among
      rcases List.mem_map.mp among with ⟨names, isRow, rfl⟩
      rcases List.mem_map.mp ((came names).mp isRow) with ⟨part, arrived, same⟩
      rcases List.mem_flatMap.mp arrived with ⟨observation, observed, counts⟩
      have own := Observation.mem_counter_labels_of_namedCounts counts
      rw [same] at own
      exact (plain observation observed).plain own
  | histogram family =>
      rcases recorded.histograms family with ⟨rows, _, came, shown⟩
      rw [shown] at among
      rcases List.mem_flatMap.mp among with ⟨names, isRow, isSample⟩
      have measured := (came names).mp isRow
      rw [List.map_map] at measured
      rcases List.mem_map.mp measured with ⟨observation, observed, same⟩
      have named : observation.histogramName = ⟨family, names⟩ := same
      have own := observation.histogramName_labels_subset
      rw [named] at own
      exact isPlain_samplesOfHistogram numeric ((plain observation observed).plain own) _ sample isSample

variable {collector : Collector} (displays : collector.Displays samples)

include displays

/-- Samples with plain labels are read from the text that displays them. -/
theorem read?_text (numeric : ∀ bound ∈ bounds, bound.amount?.isSome = true)
    (plain : ∀ observation ∈ observations, observation.HasPlainLabels) :
    Exposition.read? collector.text = some (Family.all.flatMap samples) := by
  rw [displays.text_eq]
  exact recorded.shows.read?_eq (flatMap_heading_ne_nil samples) (recorded.isPlain numeric plain)

/-- Only samples with plain labels are read from it. -/
theorem hasPlainLabels_of_read? {read : List Sample}
    (isRead : Exposition.read? collector.text = some read)
    (same : read.Perm (Family.all.flatMap samples)) :
    ∀ observation ∈ observations, observation.HasPlainLabels := by
  rw [displays.text_eq] at isRead
  exact recorded.hasPlainLabels
    (recorded.shows.isPlain_of_read? (flatMap_heading_ne_nil samples) isRead same)

end Recorded

namespace Collector

theorem numeric_ofBounds {bounds : List Json}
    (numeric : ∀ bound ∈ bounds, bound.amount?.isSome = true) :
    ∀ bound ∈ (ofBounds bounds).bounds, bound.amount?.isSome = true := by
  rw [ofBounds]
  split
  · decide
  · exact numeric

/-- The text shows the samples of some observations, and they are read from it where no label has a
character that must be escaped. -/
structure ReadBack (collector : Collector) (observations : List Observation)
    (samples : Family → List Sample) : Prop where
  recorded : Recorded collector.bounds observations samples
  displays : collector.Displays samples
  presented : collector.text? = .ok collector.text
  /-- With such a character in a label the text is not read as the samples, in whatever order. -/
  read_iff : (∃ read, Exposition.read? collector.text = some read ∧
      read.Perm (Family.all.flatMap samples)) ↔
    ∀ observation ∈ observations, observation.HasPlainLabels
  read : (∀ observation ∈ observations, observation.HasPlainLabels) →
    Exposition.read? collector.text = some (Family.all.flatMap samples)
  /-- Each line shows its sample. -/
  lines : (∀ observation ∈ observations, observation.HasPlainLabels) →
    ∀ family, ∀ sample ∈ samples family, Exposition.line? sample.line.toList = some [sample]
  /-- Different samples stand in different lines. -/
  distinct : (∀ observation ∈ observations, observation.HasPlainLabels) →
    ∀ family, ∀ left ∈ samples family, ∀ right ∈ samples family, left.line = right.line → left = right

theorem ReadBack.of_recorded {collector : Collector} {observations : List Observation}
    {samples : Family → List Sample}
    (numeric : ∀ bound ∈ collector.bounds, bound.amount?.isSome = true)
    (recorded : Recorded collector.bounds observations samples)
    (displays : collector.Displays samples) (presented : collector.text? = .ok collector.text) :
    collector.ReadBack observations samples := by
  have lines (plain : ∀ observation ∈ observations, observation.HasPlainLabels) (family : Family)
      (sample : Sample) (member : sample ∈ samples family) :
      Exposition.line? sample.line.toList = some [sample] := by
    have among := List.mem_flatMap.mpr ⟨family, family.mem_all, member⟩
    exact (recorded.isPlain numeric plain sample among).line?_line
      (recorded.proper family sample member)
  refine ⟨recorded, displays, presented, ⟨?_, ?_⟩, recorded.read?_text displays numeric, lines, ?_⟩
  · intro found
    rcases found with ⟨read, isRead, same⟩
    exact recorded.hasPlainLabels_of_read? displays isRead same
  · intro plain
    exact ⟨_, recorded.read?_text displays numeric plain, .refl _⟩
  · intro plain family left leftMember right rightMember same
    have leftReads := lines plain family left leftMember
    rw [same, lines plain family right rightMember] at leftReads
    cases leftReads
    rfl

/-- The text of metrics is read back where no label has a quote, a backslash or the end of a line, and
only there. Observations as the program makes them are all recorded. -/
theorem text_read_back_iff {bounds : List Json}
    (numeric : ∀ bound ∈ bounds, bound.amount?.isSome = true) {observations : List Observation}
    (texts : ∀ observation ∈ observations, observation.HasTextLabels) :
    ((∀ observation ∈ observations, observation.Whole) →
      ∃ collector, recordAll observe (ofBounds bounds) observations = .ok collector) ∧
    ∀ collector, recordAll observe (ofBounds bounds) observations = .ok collector →
      ∃ samples, collector.ReadBack observations samples := by
  have effective := numeric_ofBounds numeric
  constructor
  · exact exists_recorded_of_whole effective
  · intro collector recorded
    have holds := holds_of_recordAll recorded
    have bounds_eq := holds.bounds_eq
    rw [← bounds_eq] at holds effective
    rcases holds.exists_recorded texts with ⟨samples, isRecorded, displays⟩
    exact ⟨samples, .of_recorded effective isRecorded displays (holds.text?_eq_ok texts)⟩

/-- A search and a request for a path with marks of the format, none of which must be escaped. -/
def markedRun : List Observation :=
  [.search (.string "vector") true true (.float 10.0) (.integer 3),
    .request (.string "GET") (.string "/\x7bid\x7d, b=c") "200" (.float 0.5)]

theorem markedRun_read_back :
    (∀ observation ∈ markedRun, observation.Whole) ∧
    ∃ collector samples, recordAll observe (ofBounds observedBounds) markedRun = .ok collector ∧
      Recorded collector.bounds markedRun samples ∧
      Exposition.read? collector.text = some (Family.all.flatMap samples) := by
  have whole : ∀ observation ∈ markedRun, observation.Whole := by
    simp only [markedRun, List.forall_mem_cons]
    exact ⟨Observation.whole_search .., Observation.whole_request .., by simp⟩
  have numeric : ∀ bound ∈ observedBounds, bound.amount?.isSome = true := by decide
  rcases text_read_back_iff numeric fun observation member => (whole observation member).texts with
    ⟨allRecorded, readsBack⟩
  rcases allRecorded whole with ⟨collector, recorded⟩
  rcases readsBack collector recorded with ⟨samples, readBack⟩
  exact ⟨whole, collector, samples, recorded, readBack.recorded, readBack.read (by decide)⟩

/-- Two requests with quotes in their labels, which are written alike. -/
def forgedRun : List Observation :=
  [.request (.string "a\",path=\"b") (.string "c") "200" (.float 1.0),
    .request (.string "a") (.string "b\",path=\"c") "200" (.float 1.0)]

theorem forgedRun_not_read_back :
    (∀ observation ∈ forgedRun, observation.HasTextLabels) ∧
    ∃ collector samples, recordAll observe (ofBounds []) forgedRun = .ok collector ∧
      Recorded collector.bounds forgedRun samples ∧
      (¬∃ read, Exposition.read? collector.text = some read ∧
        read.Perm (Family.all.flatMap samples)) ∧
      ∃ left ∈ samples (.counter .requests), ∃ right ∈ samples (.counter .requests),
        left.labels ≠ right.labels ∧ left.line = right.line := by
  have texts : ∀ observation ∈ forgedRun, observation.HasTextLabels := by
    simp [forgedRun, Observation.HasTextLabels, Observation.counter]
  have ran : ∃ collector, recordAll observe (ofBounds []) forgedRun = .ok collector := ⟨_, rfl⟩
  rcases ran with ⟨collector, recorded⟩
  have holds := holds_of_recordAll recorded
  have bounds_eq := holds.bounds_eq
  rw [← bounds_eq] at holds
  rcases holds.exists_recorded texts with ⟨samples, isRecorded, displays⟩
  refine ⟨texts, collector, samples, recorded, isRecorded, ?_, ?_⟩
  · intro found
    rcases found with ⟨read, isRead, same⟩
    exact absurd (isRecorded.hasPlainLabels_of_read? displays isRead same) (by decide)
  · rcases isRecorded.counters .requests with ⟨rows, _, came, shown⟩
    rw [shown]
    refine ⟨_, List.mem_map_of_mem ((came ["a\",path=\"b", "c", "200"]).mpr (by decide)),
      _, List.mem_map_of_mem ((came ["a", "b\",path=\"c", "200"]).mpr (by decide)), by decide, ?_⟩
    decide

end Collector

end HybridSearch.Metrics
