import HybridSearch.Proofs.Metrics.Reconciliation
import HybridSearch.Proofs.Metrics.Recording
import HybridSearch.Proofs.Metrics.Registry

/-! The two ways of keeping metrics agree. After the same observations both show the same series, and
for each of them the same numbers, whether these were kept as integers under the texts of bounds and
labels or counted up as binary numbers. -/

namespace HybridSearch.Metrics

namespace Observation

/-- What is observed as it is meant to be: the labels are texts, the duration is a number that may be
infinite, and the results are a natural. -/
structure Proper (observation : Observation) : Prop where
  texts : observation.HasTextLabels
  timed : ∃ duration : Float, observation.duration = .float duration ∧ duration.isNaN = false
  found : ∀ series results, observation.results? = some (series, results) →
    ∃ count : Nat, results = .integer count

end Observation

/-- No total comes to 2^53: neither what a counter adds up, nor the number of durations of a
histogram. -/
structure SmallTotals (observations : List Observation) : Prop where
  counted : ∀ series, ((addendsUnder series observations).map wholeOf).sum < 2 ^ 53
  measured : ∀ series, (measuredUnder series observations).length < 2 ^ 53

/-- A series with what either backend keeps of it. -/
structure SharedSeries (α β : Type) where
  labels : List String
  inMemory : α
  inRegistry : β

/-- An integer and a binary number are one number. -/
def SameNumber (total : Nat) (number : Float) : Prop :=
  Amount.same (.integer total) (.float number) = true

/-- Both backends show as many durations at each bound, and as many in all. -/
structure SharedSeries.SameCounts (series : SharedSeries Histogram BoundedHistogram)
    (bounds : List Json) : Prop where
  buckets : List.Forall₂ SameNumber
    ((series.inMemory.cumulative 0 (bounds.map Json.text ++ [Histogram.lastBucket])).map Prod.snd)
    (BoundedHistogram.cumulative 0.0 series.inRegistry.counts)
  count : SameNumber series.inMemory.count
    ((BoundedHistogram.cumulative 0.0 series.inRegistry.counts).getLastD 0.0)
  sum : series.inMemory.sum = series.inRegistry.sum

/-- Both backends show the series of a counter that something was added to, and one number for each. -/
structure CountersAgree (collector : Collector) (registry : Registry)
    (observations : List Observation) (family : CounterFamily)
    (rows others : List (SharedSeries Amount Float)) : Prop where
  perm : others.Perm rows
  apart : (rows.map SharedSeries.labels).Nodup
  observed : ∀ names, names ∈ rows.map SharedSeries.labels ↔
    ∃ observation ∈ observations, ⟨family, names⟩ ∈ observation.namedCounts.map Prod.fst
  inMemory : collector.counterLines family = Collector.heading family.presentation "counter" ++
    rows.map fun row => Collector.sample family.presentation.name
      (Collector.labelText family.presentation.labels (row.labels.map .text)) row.inMemory.text
  inRegistry : registry.counterLines family = Registry.heading family.presentation "counter" ++
    others.map fun row => Registry.sample family.presentation.name
      (family.presentation.labels.zip row.labels) row.inRegistry
  same : ∀ row ∈ rows, row.inMemory.same (.float row.inRegistry) = true

/-- Both backends show the series of a histogram in which something was measured, and the same numbers
for each. -/
structure HistogramsAgree (collector : Collector) (registry : Registry)
    (observations : List Observation) (family : HistogramFamily)
    (rows others : List (SharedSeries Histogram BoundedHistogram)) : Prop where
  perm : others.Perm rows
  apart : (rows.map SharedSeries.labels).Nodup
  observed : ∀ names, names ∈ rows.map SharedSeries.labels ↔
    ∃ observation ∈ observations, observation.histogramName = ⟨family, names⟩
  inMemory : collector.familyLines (.histogram family) =
    Collector.heading family.presentation "histogram" ++ rows.flatMap fun row =>
      Collector.histogramLines collector.bounds family.presentation (row.labels.map .text)
        row.inMemory
  inRegistry : registry.familyLines (.histogram family) =
    Registry.heading family.presentation "histogram" ++ others.flatMap fun row =>
      Registry.histogramLines registry.bounds family.presentation row.labels row.inRegistry
  same : ∀ row ∈ rows, row.SameCounts collector.bounds

/-! ## Bounds -/

/-- The bounds of one backend are those of the other as numbers, and the infinite one. -/
def SameBounds (bounds : List Json) (closed : List Float) : Prop :=
  ∃ finite, closed = finite ++ [Number.infinity] ∧
    List.Forall₂ (fun (bound : Json) number =>
      (bound.amount?.any fun amount => amount.same (.float number)) = true) bounds finite

/-- The default bounds as a registry has them. -/
def closedBounds : List Float :=
  [5.0, 10.0, 25.0, 50.0, 100.0, 250.0, 500.0, 1000.0, 2500.0, 5000.0, 10000.0, Number.infinity]

theorem ofBounds?_defaultBounds :
    Registry.ofBounds? defaultBounds = .ok ⟨closedBounds, .empty, .empty⟩ := by
  rfl

theorem sameBounds_default : SameBounds defaultBounds closedBounds :=
  ⟨closedBounds.dropLast, rfl, by decide +kernel⟩

theorem closedBounds_ascending :
    closedBounds.Pairwise fun lower upper =>
      Amount.atMost (.float lower) (.float upper) = true := by
  decide +kernel

theorem Observation.within_iff_atMost {observation : Observation} {duration : Float}
    (isDuration : observation.duration = .float duration) {bound : Json} {number : Float}
    (same : (bound.amount?.any fun amount => amount.same (.float number)) = true) :
    observation.Within bound ↔ (amountOf observation.duration).atMost (.float number) = true := by
  rcases (Option.any_eq_true ..).mp same with ⟨amount, given, alike⟩
  rw [Amount.same, Bool.and_eq_true] at alike
  rw [Within, isDuration, Json.precedes_of_amounts .atMost rfl given, Except.ok.injEq]
  exact ⟨fun within => Amount.atMost_trans within alike.1,
    fun within => Amount.atMost_trans within alike.2⟩

theorem Observation.atMost_infinity {observation : Observation} {duration : Float}
    (isDuration : observation.duration = .float duration) (isNumber : duration.isNaN = false) :
    (amountOf observation.duration).atMost (.float Number.infinity) = true := by
  rw [isDuration]
  exact decide_eq_true (Number.le_infinity isNumber)

/-! ## Numbers -/

section Counters

variable {observations : List Observation}
  (proper : ∀ observation ∈ observations, observation.Proper)

include proper

theorem natural_addends (series : CounterSeries String) :
    ∀ addend ∈ addendsUnder series observations, ∃ count : Nat, addend = .integer count := by
  intro addend member
  rcases List.mem_map.mp member with ⟨part, came, rfl⟩
  rcases List.mem_flatMap.mp (List.mem_of_mem_filter came) with ⟨observation, among, counts⟩
  rcases List.mem_cons.mp counts with rfl | results
  · exact ⟨1, rfl⟩
  · rcases List.mem_map.mp (Option.toList_map .. ▸ results) with ⟨⟨series, given⟩, found, rfl⟩
    exact (proper observation among).found series given (Option.mem_toList.mp found)

/-- A counter comes to one number in both backends. -/
theorem same_counts (small : SmallTotals observations) (series : CounterSeries String) :
    Amount.same ((addendsUnder series observations).foldl plus (.integer 0))
      (.float ((addendsUnder series observations).foldl plusNumber 0.0)) = true := by
  have few := small.counted series
  have naturals := natural_addends proper series
  generalize addendsUnder series observations = addends at few naturals ⊢
  have wholes : ∀ addend ∈ addends, ∃ whole, addend.amount? = some (.integer whole) := by
    intro addend member
    rcases naturals addend member with ⟨count, rfl⟩
    exact ⟨count, rfl⟩
  rcases whole_foldl naturals Number.whole_zero (by simpa using few) with ⟨total, isTotal, whole⟩
  rw [Nat.cast_zero] at isTotal
  rw [foldl_plus wholes, ← isTotal]
  exact whole.same

/-- Results that come to a small total are small, so each has a binary number near it. -/
theorem recordable_of_proper (small : SmallTotals observations) :
    ∀ observation ∈ observations, observation.Recordable := by
  intro observation member
  have isProper := proper observation member
  rcases isProper.timed with ⟨duration, isDuration, _⟩
  refine ⟨isProper.texts, ⟨duration, isDuration⟩, fun series results given => ?_⟩
  rcases isProper.found series results given with ⟨count, rfl⟩
  let name : CounterSeries String := ⟨series.family, series.labels.map Json.text⟩
  have addend : .integer count ∈ addendsUnder name observations := by
    refine List.mem_map.mpr ⟨(name, .integer count), List.mem_filter.mpr ⟨?_, by simp⟩, rfl⟩
    refine List.mem_flatMap.mpr ⟨observation, member, List.mem_cons_of_mem _ ?_⟩
    rw [given]
    exact List.mem_singleton_self _
  have few := small.counted name
  have below : (count : Int) ≤ ((addendsUnder name observations).map wholeOf).sum := by
    refine List.single_le_sum (fun value among => ?_) _ (List.mem_map_of_mem addend)
    rcases List.mem_map.mp among with ⟨other, came, rfl⟩
    exact wholeOf_nonneg (natural_addends proper name other came)
  rcases Number.exists_ofInteger? (show count < 2 ^ 53 by omega) with ⟨number, near, _⟩
  exact ⟨count, number, rfl, near⟩

/-- Totals are small where all of them together are. -/
theorem smallTotals_of_sum
    (sum : ((observations.flatMap Observation.namedCounts).map fun part => wholeOf part.2).sum <
      2 ^ 53)
    (short : observations.length < 2 ^ 53) : SmallTotals observations where
  counted series := by
    have within : ((addendsUnder series observations).map wholeOf).Sublist
        ((observations.flatMap Observation.namedCounts).map fun part => wholeOf part.2) := by
      rw [addendsUnder, Keyed.partsOf, List.map_map]
      exact List.filter_sublist.map _
    refine lt_of_le_of_lt (within.sum_le_sum fun whole member => ?_) sum
    rcases List.mem_map.mp member with ⟨part, came, rfl⟩
    refine wholeOf_nonneg (natural_addends proper part.1 part.2 ?_)
    exact List.mem_map.mpr ⟨part, List.mem_filter.mpr ⟨came, by simp⟩, rfl⟩
  measured _ := lt_of_le_of_lt (List.length_filter_le ..) short

end Counters

section Histograms

theorem getLastD_of_forall₂ {α β : Type} {related : α → β → Prop} {values : List α}
    {others : List β} {last : β} (all : List.Forall₂ related values (others ++ [last]))
    (default : α) : related (values.getLastD default) last := by
  induction others generalizing values default with
  | nil =>
      rcases List.forall₂_cons_right_iff.mp all with ⟨value, _, holds, rest, rfl⟩
      cases rest
      exact holds
  | cons other rest induction =>
      rcases List.forall₂_cons_right_iff.mp all with ⟨value, _, _, later, rfl⟩
      rw [List.getLastD_cons]
      exact induction later value

theorem sameNumbers_of_whole {numbers : List Float} {totals : List Nat}
    (whole : List.Forall₂ Number.Whole numbers totals) : List.Forall₂ SameNumber totals numbers := by
  refine List.Forall₂.flip (whole.imp fun number total isTotal => ?_)
  exact isTotal.same

variable {bounds : List Json} {closed : List Float} (ascending : Ascending bounds)
  (same : SameBounds bounds closed) {observations : List Observation}
  (proper : ∀ observation ∈ observations, observation.Proper)

include same proper in
/-- The durations up to a bound are the same ones in both backends, and the infinite bound has all. -/
theorem countP_within_eq :
    (bounds.map fun bound => observations.countP (·.Within bound)) ++ [observations.length] =
      closed.map fun number =>
        ((observations.map Observation.duration).map amountOf).countP fun amount =>
          amount.atMost (.float number) := by
  rcases same with ⟨finite, rfl, alike⟩
  rw [List.map_append, List.map_singleton]
  simp only [List.countP_map]
  congr 1
  · rw [← List.forall₂_eq_eq_eq, List.forall₂_map_left_iff, List.forall₂_map_right_iff]
    refine alike.imp fun bound number alike => List.countP_congr fun observation member => ?_
    rcases (proper observation member).timed with ⟨duration, isDuration, _⟩
    rw [decide_eq_true_iff]
    exact Observation.within_iff_atMost isDuration alike
  · rw [List.singleton_inj, eq_comm, List.countP_eq_length]
    intro observation member
    rcases (proper observation member).timed with ⟨duration, isDuration, isNumber⟩
    exact Observation.atMost_infinity isDuration isNumber

include ascending same proper in
/-- A histogram comes to the same numbers in both backends. -/
theorem sameCounts_of_proper
    (closedAscending : closed.Pairwise fun lower upper =>
      Amount.atMost (.float lower) (.float upper) = true)
    (small : observations.length < 2 ^ 53) (labels : List String) :
    SharedSeries.SameCounts
      ⟨labels, (partsIn bounds observations).foldl Histogram.addPart .empty,
        (observations.map Observation.duration).foldl (BoundedHistogram.addDuration closed)
          (.empty closed)⟩ bounds := by
  have numeric : ∀ observation ∈ observations, observation.duration.amount?.isSome = true := by
    intro observation member
    rcases (proper observation member).timed with ⟨duration, isDuration, _⟩
    rw [isDuration]
    rfl
  have counts : List.Forall₂ Number.Whole ((observations.map Observation.duration).foldl
      (BoundedHistogram.addDuration closed) (.empty closed)).counts
      (BoundedHistogram.countsAt ((observations.map Observation.duration).map amountOf) closed) :=
    BoundedHistogram.whole_addDuration (by rwa [List.length_map])
  have whole : List.Forall₂ Number.Whole
      (BoundedHistogram.cumulative 0.0 ((observations.map Observation.duration).foldl
        (BoundedHistogram.addDuration closed) (.empty closed)).counts)
      ((bounds.map fun bound => observations.countP (·.Within bound)) ++ [observations.length]) := by
    rw [countP_within_eq same proper]
    refine BoundedHistogram.whole_cumulative (by simpa using small) closedAscending
      (fun _ => false) (by simp) ?_ ?_
    · simpa using Number.whole_zero
    · simpa using counts
  constructor
  · rw [cumulative_eq ascending numeric]
    simpa [Function.comp_def] using sameNumbers_of_whole whole
  · have last : SameNumber _ _ := (getLastD_of_forall₂ whole 0.0).same
    rw [Histogram.foldl_addPart]
    simpa [partsIn, Histogram.empty] using last
  · rw [Histogram.foldl_addPart, BoundedHistogram.sum_addDuration, partsIn]
    simp [Histogram.empty, BoundedHistogram.empty, Function.comp_def, Observation.number]

end Histograms

/-! ## Agreement -/

/-- A counter with what the addends under its name come to. -/
def sharedCounter (family : CounterFamily) (observations : List Observation) (names : List String) :
    SharedSeries Amount Float :=
  ⟨names, (addendsUnder ⟨family, names⟩ observations).foldl plus (.integer 0),
    (addendsUnder ⟨family, names⟩ observations).foldl plusNumber 0.0⟩

/-- A histogram with what the durations under its name come to. -/
def sharedHistogram (bounds : List Json) (closed : List Float) (family : HistogramFamily)
    (observations : List Observation) (names : List String) :
    SharedSeries Histogram BoundedHistogram :=
  ⟨names, (partsIn bounds (measuredUnder ⟨family, names⟩ observations)).foldl Histogram.addPart .empty,
    ((measuredUnder ⟨family, names⟩ observations).map Observation.duration).foldl
      (BoundedHistogram.addDuration closed) (.empty closed)⟩

section Agreement

variable {collector : Collector} {registry : Registry} {observations : List Observation}
  {bounds : List Json} {closed : List Float}
  (proper : ∀ observation ∈ observations, observation.Proper) (small : SmallTotals observations)
  (inMemory : collector.Holds bounds (observations.flatMap Observation.counted)
    (observations.map (Observation.measured bounds)))
  (inRegistry : registry.Holds closed (observations.flatMap Observation.namedCounts)
    (observations.map Observation.namedDuration))

include proper small inMemory inRegistry

theorem exists_countersAgree (family : CounterFamily) :
    ∃ rows others, CountersAgree collector registry observations family rows others := by
  rcases inMemory.sorted_counters_eq (fun observation member => (proper observation member).texts)
    family with ⟨named, nodup, came, sorted⟩
  have perm := inRegistry.counters.perm_names CounterSeries.namesIn_eq_some_iff nodup came
  have labels : (named.map (sharedCounter family observations)).map SharedSeries.labels = named := by
    rw [List.map_map]
    exact List.map_id named
  refine ⟨named.map (sharedCounter family observations), _,
    perm.map (sharedCounter family observations), ?_, fun names => ?_, ?_, ?_, ?_⟩
  · rwa [labels]
  · rw [labels, came, List.map_flatMap, List.mem_flatMap]
  · rw [Collector.counterLines, sorted, List.map_map, List.map_map]
    rfl
  · rw [inRegistry.counterLines_eq, List.map_map]
    rfl
  · intro row member
    rcases List.mem_map.mp member with ⟨names, _, rfl⟩
    exact same_counts proper small ⟨family, names⟩

theorem exists_histogramsAgree (ascending : Ascending bounds) (same : SameBounds bounds closed)
    (closedAscending : closed.Pairwise fun lower upper =>
      Amount.atMost (.float lower) (.float upper) = true) (family : HistogramFamily) :
    ∃ rows others, HistogramsAgree collector registry observations family rows others := by
  rcases inMemory.sorted_histograms_eq (fun observation member => (proper observation member).texts)
    family with ⟨named, nodup, came, sorted⟩
  have perm := inRegistry.histograms.perm_names HistogramSeries.namesIn_eq_some_iff nodup came
  have labels : (named.map (sharedHistogram bounds closed family observations)).map
      SharedSeries.labels = named := by
    rw [List.map_map]
    exact List.map_id named
  have durations (names : List String) : Keyed.partsOf (· = ·) ⟨family, names⟩
      (observations.map Observation.namedDuration) =
        (measuredUnder ⟨family, names⟩ observations).map Observation.duration := by
    rw [Keyed.partsOf, List.filter_map, List.map_map]
    rfl
  refine ⟨named.map (sharedHistogram bounds closed family observations), _,
    perm.map (sharedHistogram bounds closed family observations), ?_, fun names => ?_, ?_, ?_, ?_⟩
  · rwa [labels]
  · rw [labels, came, List.map_map, List.mem_map]
    rfl
  · rw [Collector.familyLines, sorted, List.flatMap_map, List.flatMap_map, inMemory.bounds_eq]
    rfl
  · rw [inRegistry.histogramLines_eq, List.flatMap_map, inRegistry.bounds_eq]
    simp only [durations, sharedHistogram]
  · intro row member
    rcases List.mem_map.mp member with ⟨names, _, rfl⟩
    rw [inMemory.bounds_eq]
    exact sameCounts_of_proper ascending same
      (fun observation among => proper observation (List.mem_of_mem_filter among)) closedAscending
      (small.measured ⟨family, names⟩) names

end Agreement

/-- The two backends agree. Any run of observations under texts, with durations that are numbers and
naturals as results, is recorded by both, and both show the same series and the same numbers: for each
counter, for each bound of a histogram and for its count. -/
theorem backends_agree {observations : List Observation}
    (proper : ∀ observation ∈ observations, observation.Proper) (small : SmallTotals observations) :
    ∃ start collector registry,
      Registry.ofBounds? defaultBounds = .ok start ∧
      recordAll Collector.observe (.ofBounds []) observations = .ok collector ∧
      recordAll Registry.observe start observations = .ok registry ∧
      collector.text? = .ok collector.text ∧
      SameBounds collector.bounds registry.bounds ∧
      (∀ family, ∃ rows others,
        CountersAgree collector registry observations family rows others) ∧
      ∀ family, ∃ rows others,
        HistogramsAgree collector registry observations family rows others := by
  have recordable := recordable_of_proper proper small
  have ascending : Ascending (Collector.ofBounds []).bounds := Ascending.ofBounds ⟨by simp, .nil⟩
  rcases Collector.exists_recorded ascending.numeric recordable with ⟨collector, recorded⟩
  rcases Registry.exists_recorded ⟨closedBounds, .empty, .empty⟩ recordable
    with ⟨registry, alsoRecorded⟩
  have inMemory := Collector.holds_of_recordAll recorded
  have inRegistry := Registry.holds_of_recordAll alsoRecorded
  refine ⟨_, collector, registry, ofBounds?_defaultBounds, recorded, alsoRecorded,
    inMemory.text?_eq_ok fun observation member => (proper observation member).texts, ?_,
    exists_countersAgree proper small inMemory inRegistry,
    exists_histogramsAgree proper small inMemory inRegistry ascending sameBounds_default
      closedBounds_ascending⟩
  rw [inMemory.bounds_eq, inRegistry.bounds_eq]
  exact sameBounds_default

/-- Searches of one mode, of which one fails, and a request of the same duration as a bound. -/
def properRun : List Observation :=
  [.search (.string "vector") true true (.float 10.5) (.integer 3),
    .search (.string "vector") true false (.float 0.5) (.integer 0),
    .request (.string "GET") (.string "/health") "200" (.float 250.0),
    .search (.string "vector") true true (.float Number.infinity) (.integer 0)]

theorem properRun_proper : ∀ observation ∈ properRun, observation.Proper := by
  simp only [properRun, List.forall_mem_cons]
  refine ⟨?_, ?_, ?_, ?_, by simp⟩
  all_goals
    refine ⟨by simp [Observation.HasTextLabels, Observation.counter], ⟨_, rfl, rfl⟩, ?_⟩
    intro series results given
    cases given
  · exact ⟨3, rfl⟩
  · exact ⟨0, rfl⟩

theorem properRun_agreed :
    ∃ start collector registry,
      Registry.ofBounds? defaultBounds = .ok start ∧
      recordAll Collector.observe (.ofBounds []) properRun = .ok collector ∧
      recordAll Registry.observe start properRun = .ok registry ∧
      (∃ rows others, CountersAgree collector registry properRun .results rows others) ∧
      ∃ rows others, HistogramsAgree collector registry properRun .searches rows others := by
  rcases backends_agree properRun_proper
    (smallTotals_of_sum properRun_proper (by decide) (by decide)) with
    ⟨start, collector, registry, made, recorded, alsoRecorded, _, _, counters, histograms⟩
  exact ⟨start, collector, registry, made, recorded, alsoRecorded, counters _, histograms _⟩

end HybridSearch.Metrics
