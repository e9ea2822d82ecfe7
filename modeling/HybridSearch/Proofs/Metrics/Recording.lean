import HybridSearch.Metrics.Backend
import HybridSearch.Proofs.Metrics.Holding
import HybridSearch.Proofs.Number.Overflow

/-! Recording what is observed. Where the labels are texts, the duration is a number and the results are
a natural that is not too large, an observation is recorded in full by every backend whose bounds are
numbers too, whatever was recorded before. -/

namespace HybridSearch.Metrics

/-- The bounds of a backend are numbers. Those of the default backend are, and a registry takes no
others. -/
def Backend.HasNumericBounds : Backend → Prop
  | .collector kept => ∀ bound ∈ kept.bounds, bound.amount?.isSome = true
  | .registry _ => True

example : (Backend.collector (.ofBounds [])).HasNumericBounds := by
  change ∀ bound ∈ defaultBounds, bound.amount?.isSome = true
  decide

theorem ofInteger?_one : ∃ one, Number.ofInteger? (1 : Nat) = some one := by
  refine Option.ne_none_iff_exists'.mp fun none => ?_
  exact absurd ((Number.ofInteger?_eq_none_iff 1).mp none) (by decide +kernel)

theorem Histogram.exists_bucketOf (duration : Float) {bounds : List Json}
    (numeric : ∀ bound ∈ bounds, bound.amount?.isSome = true) :
    ∃ bucket, bucketOf (.float duration) bounds = .ok bucket := by
  induction bounds with
  | nil => exact ⟨_, rfl⟩
  | cons bound rest induction =>
      rcases Option.isSome_iff_exists.mp (numeric bound (List.mem_cons_self ..)) with
        ⟨amount, given⟩
      have compared : (Json.float duration).precedes .atMost bound =
          .ok (Amount.atMost (.float duration) amount) := by
        cases bound <;> simp_all [Json.precedes, Json.stand, Json.amount?, Json.Order.ofAmounts]
      rw [bucketOf, compared]
      cases Amount.atMost (.float duration) amount with
      | true => exact ⟨_, rfl⟩
      | false => exact induction fun other member => numeric other (List.mem_cons_of_mem _ member)

namespace Observation

/-- Its labels are texts, its duration is a number, and its results are a natural with a number near
it. -/
structure Recordable (observation : Observation) : Prop where
  texts : observation.HasTextLabels
  timed : ∃ duration, observation.duration = .float duration
  found : ∀ series results, observation.results? = some (series, results) →
    ∃ (count : Nat) (number : Float), results = .integer count ∧
      Number.ofInteger? count = some number

theorem recordable_external (provider operation status : String) (duration : Float) :
    (external (.string provider) (.string operation) status (.float duration)).Recordable where
  texts := by simp [HasTextLabels, counter]
  timed := ⟨duration, rfl⟩
  found _ _ given := nomatch given

end Observation

namespace Collector

theorem count_succeeds (collector : Collector) (family : CounterFamily) (labels : List Label)
    {addend : Int} {number : Float} (near : Number.ofInteger? addend = some number) :
    (collector.count family labels (.integer addend)).2 = none := by
  simp only [count, Json.amount?]
  cases (collector.counters.get? (collector.counterSeries family labels)).getD (.integer 0) with
  | integer total => rfl
  | float total => simp [Amount.add?, Amount.toFloat?, near]

theorem bounds_count (collector : Collector) (family : CounterFamily) (labels : List Label)
    (addend : Json) : (collector.count family labels addend).1.bounds = collector.bounds := by
  simp only [count]
  split
  · split <;> rfl
  · rfl

theorem measure_succeeds {collector : Collector} (family : HistogramFamily) (labels : List Label)
    (duration : Float) (numeric : ∀ bound ∈ collector.bounds, bound.amount?.isSome = true) :
    (collector.measure family labels (.float duration)).2 = none := by
  rcases Histogram.exists_bucketOf duration numeric with ⟨bucket, found⟩
  simp [measure, found, Json.amount?, Amount.toFloat?]

theorem observe_succeeds {collector : Collector} {observation : Observation}
    (recordable : observation.Recordable)
    (numeric : ∀ bound ∈ collector.bounds, bound.amount?.isSome = true) :
    (collector.observe observation).2 = none := by
  rcases ofInteger?_one with ⟨one, near⟩
  rcases recordable.timed with ⟨duration, isDuration⟩
  have counts : collector.countOne observation =
      ((collector.countOne observation).1, none) := by
    refine Prod.ext rfl ?_
    simp only [countOne, labels?_of_texts recordable.texts]
    exact collector.count_succeeds _ _ near
  have numericAfter : ∀ bound ∈ (collector.countOne observation).1.bounds,
      bound.amount?.isSome = true := by
    simpa only [countOne, labels?_of_texts recordable.texts, bounds_count] using numeric
  have measures (after : Collector) (numeric : ∀ bound ∈ after.bounds, bound.amount?.isSome = true) :
      after.measureDuration observation = ((after.measureDuration observation).1, none) := by
    refine Prod.ext rfl ?_
    simp only [measureDuration, labels?_of_texts recordable.texts.histogram, isDuration]
    exact measure_succeeds _ _ duration numeric
  rw [observe, counts]
  dsimp only
  rw [measures _ numericAfter]
  dsimp only
  rw [countResults]
  split
  · rfl
  · next series results given =>
    rcases recordable.found series results given with ⟨count, number, rfl, near⟩
    simp only [labels?_of_texts (recordable.texts.results given)]
    exact count_succeeds _ _ _ near

theorem exists_recorded {bounds : List Json}
    (numeric : ∀ bound ∈ (ofBounds bounds).bounds, bound.amount?.isSome = true)
    {observations : List Observation}
    (recordable : ∀ observation ∈ observations, observation.Recordable) :
    ∃ collector, recordAll observe (ofBounds bounds) observations = .ok collector := by
  refine exists_recordAll
    (fun kept => ∃ counted measured, kept.Holds (ofBounds bounds).bounds counted measured)
    ⟨[], [], holds_ofBounds bounds⟩ fun observation member kept holds => ?_
  rcases holds with ⟨counted, measured, holds⟩
  have succeeds : (kept.observe observation).2 = none :=
    observe_succeeds (recordable observation member) (holds.bounds_eq ▸ numeric)
  exact ⟨succeeds, _, _, holds.observe (Prod.ext rfl succeeds)⟩

end Collector

namespace Registry

theorem count_succeeds (registry : Registry) (series : CounterSeries Json) {addend : Nat}
    {number : Float} (near : Number.ofInteger? addend = some number) :
    (registry.count series (.integer addend)).2 = none := by
  have notNegative : Amount.less (.integer addend) (.integer 0) = false := by
    simp [Amount.less, Amount.atMost]
  simp [count, Json.amount?, notNegative, Amount.toFloat?, near]

theorem observe_succeeds (registry : Registry) {observation : Observation}
    (recordable : observation.Recordable) : (registry.observe observation).2 = none := by
  rcases ofInteger?_one with ⟨one, near⟩
  rcases recordable.timed with ⟨duration, isDuration⟩
  have counts : registry.count observation.counter (.integer 1) =
      ((registry.count observation.counter (.integer 1)).1, none) :=
    Prod.ext rfl (registry.count_succeeds _ near)
  have measures (after : Registry) : after.measure observation.histogram observation.duration =
      ((after.measure observation.histogram observation.duration).1, none) := by
    refine Prod.ext rfl ?_
    simp [measure, isDuration, Json.amount?, Amount.toFloat?]
  rw [observe, counts]
  dsimp only
  rw [measures]
  dsimp only
  split
  · next series results given =>
    rcases recordable.found series results given with ⟨count, number, rfl, near⟩
    exact count_succeeds _ _ near
  · rfl

theorem exists_recorded (start : Registry) {observations : List Observation}
    (recordable : ∀ observation ∈ observations, observation.Recordable) :
    ∃ registry, recordAll observe start observations = .ok registry :=
  exists_recordAll (fun _ => True) trivial fun observation member kept _ =>
    ⟨kept.observe_succeeds (recordable observation member), trivial⟩

end Registry

theorem Backend.observe_external_succeeds {backend : Backend} (numeric : backend.HasNumericBounds)
    (provider operation status : String) (duration : Float) :
    (backend.observe (.external (.string provider) (.string operation) status
      (.float duration))).2 = none := by
  have recordable := Observation.recordable_external provider operation status duration
  cases backend with
  | collector kept => exact Collector.observe_succeeds recordable numeric
  | registry kept => exact kept.observe_succeeds recordable

end HybridSearch.Metrics
