import HybridSearch.Proofs.Metrics.Label

/-! What metrics in memory hold after a run of observations. An observation that is recorded adds its
parts to two tables, so after a run each series holds the parts of all observations under its
labels. -/

namespace HybridSearch.Metrics

/-- Records observations one after another, up to the first that fails. -/
def recordAll {κ : Type} (observe : κ → Observation → κ × Option Failure) :
    κ → List Observation → Except Failure κ
  | kept, [] => .ok kept
  | kept, observation :: rest =>
      match observe kept observation with
      | (after, none) => recordAll observe after rest
      | (_, some failure) => .error failure

/-- What each recorded observation preserves, a whole run preserves. -/
theorem recordAll_preserves {κ : Type} {observe : κ → Observation → κ × Option Failure}
    {start final : κ} {observations : List Observation} (holds : List Observation → κ → Prop)
    (recorded : recordAll observe start observations = .ok final) (initially : holds [] start)
    (preserved : ∀ before kept observation after, observation ∈ observations →
      observe kept observation = (after, none) → holds before kept →
        holds (before ++ [observation]) after) : holds observations final := by
  suffices goesOn : ∀ before kept rest, before ++ rest = observations → holds before kept →
      recordAll observe kept rest = .ok final → holds observations final from
    goesOn [] start observations rfl initially recorded
  intro before kept rest
  induction rest generalizing before kept with
  | nil =>
      rintro rfl held finished
      cases finished
      rwa [List.append_nil]
  | cons observation rest induction =>
      intro whole held goes
      rw [recordAll] at goes
      split at goes
      · next after ran =>
        have member : observation ∈ observations :=
          whole ▸ List.mem_append_right _ (List.mem_cons_self ..)
        exact induction _ after (List.append_cons .. ▸ whole)
          (preserved before kept observation after member ran held) goes
      · cases goes

/-- A run ends where each observation is recorded. -/
theorem exists_recordAll {κ : Type} {observe : κ → Observation → κ × Option Failure} {start : κ}
    {observations : List Observation} (holds : κ → Prop) (initially : holds start)
    (recorded : ∀ observation ∈ observations, ∀ kept, holds kept →
      (observe kept observation).2 = none ∧ holds (observe kept observation).1) :
    ∃ final, recordAll observe start observations = .ok final := by
  induction observations generalizing start with
  | nil => exact ⟨start, rfl⟩
  | cons observation rest induction =>
      rw [List.forall_mem_cons] at recorded
      rcases recorded with ⟨first, later⟩
      rcases first start initially with ⟨ran, after⟩
      rw [recordAll, show observe start observation = ((observe start observation).1, none) from
        Prod.ext rfl ran]
      exact induction after later

/-- The binary number nearest to the number that a value stands for. -/
def numberOf (value : Json) : Float :=
  (value.amount?.bind Amount.toFloat?).getD 0.0

/-- The integer that a value stands for, if it stands for one. -/
def wholeOf (value : Json) : Int :=
  match value.amount? with
  | some (.integer whole) => whole
  | _ => 0

namespace Observation

def counterKey (observation : Observation) : CounterSeries Label :=
  ⟨observation.counter.family, labelsOf observation.counter.labels⟩

def histogramKey (observation : Observation) : HistogramSeries Label :=
  ⟨observation.histogram.family, labelsOf observation.histogram.labels⟩

/-- What an observation adds to counters: one, and its results where it has some. -/
def counted (observation : Observation) : List (CounterSeries Label × Json) :=
  (observation.counterKey, .integer 1) ::
    (observation.results?.map fun (series, results) =>
      (⟨series.family, labelsOf series.labels⟩, results)).toList

def number (observation : Observation) : Float :=
  numberOf observation.duration

def bucket (bounds : List Json) (observation : Observation) : String :=
  match Histogram.bucketOf observation.duration bounds with
  | .ok bucket => bucket
  | .error _ => Histogram.lastBucket

/-- What an observation adds to a histogram: its bucket and its duration. -/
def measured (bounds : List Json) (observation : Observation) :
    HistogramSeries Label × String × Float :=
  (observation.histogramKey, observation.bucket bounds, observation.number)

/-- Its duration can be compared with the bounds up to its bucket, and there is a number near it. -/
def Measurable (bounds : List Json) (observation : Observation) : Prop :=
  ∃ bucket number, Histogram.bucketOf observation.duration bounds = .ok bucket ∧
    observation.duration.amount?.bind Amount.toFloat? = some number

/-- Its labels are texts, as they are meant to be. -/
def HasTextLabels (observation : Observation) : Prop :=
  ∀ label ∈ observation.counter.labels, ∃ text, label = .string text

theorem isText_of_mem_labelsOf {values : List Json}
    (texts : ∀ value ∈ values, ∃ text, value = .string text) :
    ∀ label ∈ labelsOf values, label.isText = true := by
  intro label member
  rcases List.mem_filterMap.mp member with ⟨value, among, read⟩
  rcases texts value among with ⟨text, rfl⟩
  cases read
  rfl

namespace HasTextLabels

variable {observation : Observation} (texts : observation.HasTextLabels)

include texts

theorem histogram : ∀ label ∈ observation.histogram.labels, ∃ text, label = .string text := by
  intro label member
  refine texts label ?_
  cases observation <;> simp only [Observation.histogram, counter, List.mem_cons] at member ⊢ <;>
    tauto

theorem results {series : CounterSeries Json} {results : Json}
    (given : observation.results? = some (series, results)) :
    ∀ label ∈ series.labels, ∃ text, label = .string text := by
  intro label member
  refine texts label ?_
  rcases observation with _ | ⟨mode, parallel, _ | _, duration, found⟩ | _ <;> cases given
  exact List.mem_cons.mpr (.inl (List.mem_singleton.mp member))

theorem counterKey : ∀ label ∈ observation.counterKey.labels, label.isText = true :=
  isText_of_mem_labelsOf texts

theorem histogramKey : ∀ label ∈ observation.histogramKey.labels, label.isText = true :=
  isText_of_mem_labelsOf texts.histogram

theorem counted {part : CounterSeries Label × Json} (member : part ∈ observation.counted) :
    ∀ label ∈ part.1.labels, label.isText = true := by
  rcases List.mem_cons.mp member with rfl | results
  · exact texts.counterKey
  · rcases List.mem_map.mp (Option.toList_map .. ▸ results) with ⟨⟨series, given⟩, found, rfl⟩
    exact isText_of_mem_labelsOf (texts.results (Option.mem_toList.mp found))

end HasTextLabels

end Observation

/-- A counter with an addend, if that is a number and there is a sum. -/
def plus (total : Amount) (addend : Json) : Amount :=
  (addend.amount?.bind total.add?).getD total

def Histogram.addPart (histogram : Histogram) (part : String × Float) : Histogram :=
  histogram.add part.1 part.2

namespace Collector

/-- Its series hold what came under their labels. -/
structure Holds (collector : Collector) (bounds : List Json)
    (counted : List (CounterSeries Label × Json))
    (measured : List (HistogramSeries Label × String × Float)) : Prop where
  bounds_eq : collector.bounds = bounds
  counters : collector.counters.Tally CounterSeries.Alike plus (.integer 0) counted
  histograms : collector.histograms.Tally HistogramSeries.Alike Histogram.addPart .empty measured

variable {collector after : Collector} {bounds : List Json}
  {counted : List (CounterSeries Label × Json)}
  {measured : List (HistogramSeries Label × String × Float)}

theorem holds_ofBounds (bounds : List Json) :
    (ofBounds bounds).Holds (ofBounds bounds).bounds [] [] :=
  ⟨rfl, .empty, .empty⟩

theorem Holds.count (holds : collector.Holds bounds counted measured) {family : CounterFamily}
    {labels : List Label} {addend : Json}
    (ran : collector.count family labels addend = (after, none)) :
    after.Holds bounds (counted ++ [(⟨family, labels⟩, addend)]) measured := by
  have changed := holds.counters.change CounterSeries.alike_equivalence
    (collector.counterSeries_standsFor family labels) addend
  rw [Collector.count] at ran
  split at ran
  · next amount given =>
    split at ran
    · next sum added =>
      rw [← Keyed.change_get? _ _ _ sum] at changed
      simp only [plus, given, Option.bind_some, added, Option.getD_some] at changed
      cases ran
      exact ⟨holds.bounds_eq, changed, holds.histograms⟩
    · cases ran
  · cases ran

theorem Holds.measure (holds : collector.Holds bounds counted measured) {family : HistogramFamily}
    {labels : List Label} {duration : Json}
    (ran : collector.measure family labels duration = (after, none)) :
    ∃ bucket number, Histogram.bucketOf duration bounds = .ok bucket ∧
      duration.amount?.bind Amount.toFloat? = some number ∧
        after.Holds bounds counted (measured ++ [(⟨family, labels⟩, bucket, number)]) := by
  rw [Collector.measure] at ran
  split at ran
  · cases ran
  · next bucket found =>
    split at ran
    · cases ran
    · next amount given =>
      split at ran
      · next number near =>
        refine ⟨bucket, number, holds.bounds_eq ▸ found, ?_, ?_⟩
        · rw [given, Option.bind_some, near]
        · have changed := holds.histograms.change HistogramSeries.alike_equivalence
            (collector.histogramSeries_standsFor family labels) (bucket, number)
          cases ran
          exact ⟨holds.bounds_eq, holds.counters, changed⟩
      · cases ran

theorem Holds.countOne (holds : collector.Holds bounds counted measured) {observation : Observation}
    (ran : collector.countOne observation = (after, none)) :
    after.Holds bounds (counted ++ [(observation.counterKey, .integer 1)]) measured := by
  rw [Collector.countOne] at ran
  split at ran
  · next labels isRow =>
    rw [Observation.counterKey, labelsOf_eq isRow]
    exact holds.count ran
  · cases ran

theorem Holds.measureDuration (holds : collector.Holds bounds counted measured)
    {observation : Observation} (ran : collector.measureDuration observation = (after, none)) :
    after.Holds bounds counted (measured ++ [observation.measured bounds]) := by
  rw [Collector.measureDuration] at ran
  split at ran
  · next labels isRow =>
    rcases holds.measure ran with ⟨bucket, number, found, near, after⟩
    rw [Observation.measured, Observation.histogramKey, labelsOf_eq isRow, Observation.bucket, found,
      Observation.number, numberOf, near]
    exact after
  · cases ran

theorem Holds.countResults (holds : collector.Holds bounds counted measured)
    {observation : Observation} (ran : collector.countResults observation = (after, none)) :
    after.Holds bounds (counted ++ (observation.results?.map fun (series, results) =>
      (⟨series.family, labelsOf series.labels⟩, results)).toList) measured := by
  rw [Collector.countResults] at ran
  split at ran
  · next resultless =>
    cases ran
    rw [resultless, Option.map_none, Option.toList_none, List.append_nil]
    exact holds
  · next series results given =>
    split at ran
    · next labels isRow =>
      simp only [given, Option.map_some, Option.toList_some, labelsOf_eq isRow]
      exact holds.count ran
    · cases ran

/-- An observation that is recorded adds what it has. -/
theorem Holds.observe (holds : collector.Holds bounds counted measured) {observation : Observation}
    (ran : collector.observe observation = (after, none)) :
    after.Holds bounds (counted ++ observation.counted)
      (measured ++ [observation.measured bounds]) := by
  rw [Collector.observe] at ran
  split at ran
  · cases ran
  · next counts =>
    split at ran
    · cases ran
    · next measures =>
      rw [Observation.counted, List.append_cons]
      exact ((holds.countOne counts).measureDuration measures).countResults ran

/-- An observation is only recorded when its duration can be measured. -/
theorem Holds.measurable (holds : collector.Holds bounds counted measured)
    {observation : Observation} (ran : collector.observe observation = (after, none)) :
    observation.Measurable bounds := by
  rw [Collector.observe] at ran
  split at ran
  · cases ran
  · next counts =>
    split at ran
    · cases ran
    · next measures =>
      rw [Collector.measureDuration] at measures
      split at measures
      · rcases (holds.countOne counts).measure measures with ⟨bucket, number, found, near, _⟩
        exact ⟨bucket, number, found, near⟩
      · cases measures

/-- After a run, the series hold what was observed under their labels. -/
theorem holds_of_recordAll {observations : List Observation}
    (recorded : recordAll observe (ofBounds bounds) observations = .ok collector) :
    collector.Holds (ofBounds bounds).bounds (observations.flatMap Observation.counted)
      (observations.map (Observation.measured (ofBounds bounds).bounds)) := by
  refine recordAll_preserves (fun observations collector => collector.Holds (ofBounds bounds).bounds
      (observations.flatMap Observation.counted)
      (observations.map (Observation.measured (ofBounds bounds).bounds)))
    recorded (holds_ofBounds bounds) fun before kept observation after _ ran holds => ?_
  rw [List.flatMap_append, List.map_append, List.flatMap_singleton]
  exact holds.observe ran

theorem measurable_of_recordAll {observations : List Observation}
    (recorded : recordAll observe (ofBounds bounds) observations = .ok collector) :
    ∀ observation ∈ observations, observation.Measurable (ofBounds bounds).bounds := by
  have kept := recordAll_preserves (fun observations collector =>
      (∃ counted measured, collector.Holds (ofBounds bounds).bounds counted measured) ∧
        ∀ observation ∈ observations, observation.Measurable (ofBounds bounds).bounds)
    recorded ⟨⟨[], [], holds_ofBounds bounds⟩, nofun⟩ ?_
  · exact kept.2
  · intro before kept observation after _ ran holds
    rcases holds with ⟨⟨counted, measured, holds⟩, measurable⟩
    refine ⟨⟨_, _, holds.observe ran⟩, fun other member => ?_⟩
    rcases List.mem_append.mp member with earlier | last
    · exact measurable other earlier
    · exact List.mem_singleton.mp last ▸ holds.measurable ran

end Collector

/-! ## A run -/

def observedBounds : List Json :=
  [.integer 10, .float 250.5]

/-- Searches of one mode, of which one fails, and a request. -/
def observedRun : List Observation :=
  [.search (.string "vector") true true (.integer 10) (.integer 3),
    .search (.string "vector") true false (.float 10.5) (.integer 0),
    .request (.string "GET") (.string "/health") "200" (.float 0.5),
    .search (.string "vector") true true (.integer 251) (.integer 2)]

theorem observedRun_recorded :
    ∃ collector, recordAll Collector.observe (.ofBounds observedBounds) observedRun =
      .ok collector :=
  ⟨_, rfl⟩

theorem observedRun_numeric :
    ∀ observation ∈ observedRun, observation.duration.amount?.isSome = true := by
  decide

end HybridSearch.Metrics
