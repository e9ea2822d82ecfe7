import Mathlib.Algebra.Order.BigOperators.Group.List
import Mathlib.Data.List.Induction
import HybridSearch.Metrics.Registry
import HybridSearch.Proofs.Metrics.Names
import HybridSearch.Proofs.Number.Exact

/-! What metrics in binary numbers hold after a run of observations. Series are told apart by the texts
of their labels. While totals stay below 2^53 no sum is rounded, so what is counted in binary numbers
is counted exactly. -/

namespace HybridSearch.Metrics

/-- The amount that a value stands for. -/
def amountOf (value : Json) : Amount :=
  value.amount?.getD (.integer 0)

def plusNumber (total : Float) (addend : Json) : Float :=
  total + numberOf addend

def BoundedHistogram.addDuration (bounds : List Float) (histogram : BoundedHistogram)
    (duration : Json) : BoundedHistogram :=
  histogram.add bounds (amountOf duration) (numberOf duration)

namespace Registry

/-- Its series hold what came under their names. -/
structure Holds (registry : Registry) (bounds : List Float)
    (counted : List (CounterSeries String × Json))
    (measured : List (HistogramSeries String × Json)) : Prop where
  bounds_eq : registry.bounds = bounds
  counters : registry.counters.Tally (· = ·) plusNumber 0.0 counted
  histograms :
    registry.histograms.Tally (· = ·) (BoundedHistogram.addDuration bounds) (.empty bounds) measured

variable {registry after : Registry} {bounds : List Float}
  {counted : List (CounterSeries String × Json)} {measured : List (HistogramSeries String × Json)}

theorem Holds.count (holds : registry.Holds bounds counted measured) {series : CounterSeries Json}
    {addend : Json} (ran : registry.count series addend = (after, none)) :
    after.Holds bounds (counted ++ [(⟨series.family, series.labels.map Json.text⟩, addend)])
      measured := by
  have changed := holds.counters.change eq_equivalence
    (.self _ ⟨series.family, series.labels.map Json.text⟩) addend
  rw [Registry.count] at ran
  split at ran
  · cases ran
  · next amount given =>
    split at ran
    · cases ran
    · split at ran
      · next number near =>
        have same : numberOf addend = number := by rw [numberOf, given, Option.bind_some, near]; rfl
        simp only [plusNumber, same] at changed
        cases ran
        exact ⟨holds.bounds_eq, changed, holds.histograms⟩
      · cases ran

theorem Holds.measure (holds : registry.Holds bounds counted measured)
    {series : HistogramSeries Json} {duration : Json}
    (ran : registry.measure series duration = (after, none)) :
    after.Holds bounds counted
      (measured ++ [(⟨series.family, series.labels.map Json.text⟩, duration)]) := by
  have changed := holds.histograms.change eq_equivalence
    (.self _ ⟨series.family, series.labels.map Json.text⟩) duration
  rw [Registry.measure, holds.bounds_eq] at ran
  split at ran
  · cases ran
  · next amount given =>
    split at ran
    · next number near =>
      have sameAmount : amountOf duration = amount := by rw [amountOf, given]; rfl
      have same : numberOf duration = number := by rw [numberOf, given, Option.bind_some, near]; rfl
      simp only [BoundedHistogram.addDuration, sameAmount, same] at changed
      cases ran
      exact ⟨rfl, holds.counters, changed⟩
    · cases ran

/-- An observation that is recorded adds what it has. -/
theorem Holds.observe (holds : registry.Holds bounds counted measured) {observation : Observation}
    (ran : registry.observe observation = (after, none)) :
    after.Holds bounds (counted ++ observation.namedCounts)
      (measured ++ [observation.namedDuration]) := by
  rw [Registry.observe] at ran
  split at ran
  · cases ran
  · next counts =>
    split at ran
    · cases ran
    · next measures =>
      have both := (holds.count counts).measure measures
      rw [Observation.namedCounts, List.append_cons]
      split at ran
      · next series results given =>
        rw [given]
        exact both.count ran
      · next resultless =>
        cases ran
        rw [resultless, Option.map_none, Option.toList_none, List.append_nil]
        exact both

theorem holds_fresh (bounds : List Float) : Holds ⟨bounds, .empty, .empty⟩ bounds [] [] :=
  ⟨rfl, .empty, .empty⟩

/-- After a run, the series hold what was observed under their names. -/
theorem holds_of_recordAll {observations : List Observation}
    (recorded : recordAll observe ⟨bounds, .empty, .empty⟩ observations = .ok registry) :
    registry.Holds bounds (observations.flatMap Observation.namedCounts)
      (observations.map Observation.namedDuration) := by
  refine recordAll_preserves (fun observations registry => registry.Holds bounds
      (observations.flatMap Observation.namedCounts)
      (observations.map Observation.namedDuration))
    recorded (holds_fresh bounds) fun before kept observation after _ ran holds => ?_
  rw [List.flatMap_append, List.map_append, List.flatMap_singleton]
  exact holds.observe ran

/-! ## Lines -/

theorem Holds.counterLines_eq (holds : registry.Holds bounds counted measured)
    (family : CounterFamily) :
    registry.counterLines family = heading family.presentation "counter" ++
      (registry.counters.keys.filterMap (CounterSeries.namesIn family)).map fun names =>
        sample family.presentation.name (family.presentation.labels.zip names)
          ((Keyed.partsOf (· = ·) ⟨family, names⟩ counted).foldl plusNumber 0.0) := by
  rw [counterLines, holds.counters.entries_eq, List.filterMap_map, List.map_filterMap]
  congr 1
  refine List.filterMap_congr fun key _ => ?_
  rcases key with ⟨own, names⟩
  dsimp only [Function.comp, CounterSeries.namesIn]
  split
  · next same =>
    subst same
    rfl
  · rfl

theorem Holds.histogramLines_eq (holds : registry.Holds bounds counted measured)
    (family : HistogramFamily) :
    registry.familyLines (.histogram family) =
      heading family.presentation "histogram" ++
        (registry.histograms.keys.filterMap (HistogramSeries.namesIn family)).flatMap fun names =>
          histogramLines bounds family.presentation names
            ((Keyed.partsOf (· = ·) ⟨family, names⟩ measured).foldl
              (BoundedHistogram.addDuration bounds) (.empty bounds)) := by
  rw [familyLines, holds.histograms.entries_eq, holds.bounds_eq, List.flatMap_map,
    List.filterMap_eq_flatMap_toList, List.flatMap_assoc]
  congr 1
  refine List.flatMap_congr fun key _ => ?_
  rcases key with ⟨own, names⟩
  dsimp only [HistogramSeries.namesIn]
  split
  · next same =>
    subst same
    exact (List.flatMap_singleton ..).symm
  · rfl

end Registry

/-! ## Exact counts -/

theorem numberOf_natCast {count : Nat} (small : count < 2 ^ 53) :
    Number.Whole (numberOf (.integer count)) count := by
  rcases Number.exists_ofInteger? small with ⟨number, near, whole⟩
  simpa [numberOf, Json.amount?, Amount.toFloat?, near] using whole

theorem wholeOf_nonneg {part : Json} (natural : ∃ count : Nat, part = .integer count) :
    0 ≤ wholeOf part := by
  rcases natural with ⟨count, rfl⟩
  exact Int.natCast_nonneg count

/-- A counter to which naturals are added holds their sum. -/
theorem whole_foldl {parts : List Json}
    (naturals : ∀ part ∈ parts, ∃ count : Nat, part = .integer count) {number : Float} {before : Nat}
    (whole : Number.Whole number before) (small : before + (parts.map wholeOf).sum < 2 ^ 53) :
    ∃ total : Nat, (total : Int) = before + (parts.map wholeOf).sum ∧
      Number.Whole (parts.foldl plusNumber number) total := by
  induction parts generalizing number before with
  | nil => exact ⟨before, by simp, whole⟩
  | cons part rest induction =>
      rw [List.forall_mem_cons] at naturals
      rcases naturals with ⟨⟨count, rfl⟩, naturals⟩
      have isWhole : wholeOf (.integer count) = count := rfl
      have later : 0 ≤ (rest.map wholeOf).sum :=
        List.sum_nonneg <| by
          simpa using fun part member => wholeOf_nonneg (naturals part member)
      rw [List.map_cons, List.sum_cons, isWhole] at small
      have added : Number.Whole (plusNumber number (.integer count)) (before + count) :=
        whole.add (numberOf_natCast (by omega)) (by omega)
      rcases induction naturals added (by push_cast; omega) with ⟨total, isTotal, holds⟩
      refine ⟨total, ?_, holds⟩
      rw [isTotal, List.map_cons, List.sum_cons, isWhole]
      push_cast
      omega

namespace BoundedHistogram

/-- How many of some amounts are counted at each bound: those that exceed the bounds before, and do
not exceed the bound itself. -/
def countsAt (amounts : List Amount) : List Float → List Nat
  | [] => []
  | bound :: rest =>
      (amounts.countP fun amount => amount.atMost (.float bound)) ::
        countsAt (amounts.filter fun amount => !amount.atMost (.float bound)) rest

variable {bounds counts : List Float} {amounts : List Amount}

theorem whole_countAt (whole : List.Forall₂ Number.Whole counts (countsAt amounts bounds))
    (amount : Amount) (small : amounts.length + 1 < 2 ^ 53) :
    List.Forall₂ Number.Whole (countAt amount bounds counts)
      (countsAt (amounts ++ [amount]) bounds) := by
  induction bounds generalizing counts amounts with
  | nil => exact whole
  | cons bound rest induction =>
      rcases List.forall₂_cons_right_iff.mp whole with ⟨count, others, first, later, rfl⟩
      rw [countAt, countsAt, List.countP_append, List.filter_append]
      have fewer : (amounts.countP fun amount => amount.atMost (.float bound)) ≤ amounts.length :=
        List.countP_le_length
      cases within : amount.atMost (.float bound) with
      | true =>
          simp only [within, List.countP_singleton, List.filter_singleton, if_true, Bool.not_true,
            cond_false, List.append_nil]
          exact .cons (first.add Number.whole_one (by omega)) later
      | false =>
          simp only [within, List.countP_singleton, List.filter_singleton, Bool.not_false,
            cond_true, Bool.false_eq_true, if_false, Nat.add_zero]
          refine .cons first (induction later ?_)
          have := List.length_filter_le (fun amount => !amount.atMost (.float bound)) amounts
          omega

theorem whole_empty (bounds : List Float) :
    List.Forall₂ Number.Whole (empty bounds).counts (countsAt [] bounds) := by
  rw [empty]
  induction bounds with
  | nil => exact .nil
  | cons bound rest induction => exact .cons Number.whole_zero induction

/-- The count of each bound is exact. -/
theorem whole_addDuration {durations : List Json} (small : durations.length < 2 ^ 53) :
    List.Forall₂ Number.Whole (durations.foldl (addDuration bounds) (empty bounds)).counts
      (countsAt (durations.map amountOf) bounds) := by
  induction durations using List.reverseRecOn with
  | nil => exact whole_empty bounds
  | append_singleton before duration induction =>
      rw [List.length_append, List.length_singleton] at small
      rw [List.foldl_append, List.map_append]
      refine whole_countAt (induction (by omega)) (amountOf duration) ?_
      rwa [List.length_map]

theorem sum_addDuration (durations : List Json) (histogram : BoundedHistogram) :
    (durations.foldl (addDuration bounds) histogram).sum =
      (durations.map numberOf).foldl (· + ·) histogram.sum := by
  induction durations generalizing histogram with
  | nil => rfl
  | cons duration rest induction => exact induction _

/-- What is shown at each bound is the number of amounts that do not exceed it. -/
theorem whole_cumulative {all : List Amount} (small : all.length < 2 ^ 53)
    (ascending : bounds.Pairwise fun lower upper => Amount.atMost (.float lower) (.float upper) = true)
    (passed : Amount → Bool)
    (below : ∀ amount, passed amount = true → ∀ bound ∈ bounds, amount.atMost (.float bound) = true)
    {before : Float} (wholeBefore : Number.Whole before (all.countP passed))
    (whole : List.Forall₂ Number.Whole counts
      (countsAt (all.filter fun amount => !passed amount) bounds)) :
    List.Forall₂ Number.Whole (cumulative before counts)
      (bounds.map fun bound => all.countP fun amount => amount.atMost (.float bound)) := by
  -- What was passed has been counted at an earlier bound, so `before` is the number shown there.
  induction bounds generalizing counts before passed with
  | nil =>
      cases whole
      exact .nil
  | cons bound rest induction =>
      rcases List.forall₂_cons_right_iff.mp whole with ⟨count, others, first, later, rfl⟩
      rw [List.pairwise_cons] at ascending
      simp only [List.forall_mem_cons] at below
      rw [List.countP_filter] at first
      have total : all.countP passed +
          (all.countP fun amount => amount.atMost (.float bound) && !passed amount) =
            all.countP fun amount => amount.atMost (.float bound) := by
        refine countP_add_countP _ _ _ all fun amount _ => ?_
        have within := (below amount · |>.1)
        cases isPassed : passed amount <;> simp_all
      have fewer : (all.countP fun amount => amount.atMost (.float bound)) ≤ all.length :=
        List.countP_le_length
      have sum := wholeBefore.add first (by omega)
      rw [total] at sum
      refine .cons sum (induction ascending.2 _ (fun amount within other member => ?_) sum ?_)
      · exact Amount.atMost_trans within (ascending.1 other member)
      · convert later using 2
        rw [List.filter_filter]
        refine List.filter_congr fun amount _ => ?_
        have within := (below amount · |>.1)
        cases isPassed : passed amount <;> simp_all

end BoundedHistogram

end HybridSearch.Metrics
