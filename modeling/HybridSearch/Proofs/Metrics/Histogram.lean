import HybridSearch.Proofs.Json
import HybridSearch.Proofs.Metrics.Holding

/-! What the buckets of a histogram come to. Each duration is counted in the bucket of the first bound
that it does not exceed, and a line shows all that is counted up to its bound, so it shows how many
durations do not exceed the bound. -/

namespace HybridSearch.Metrics

theorem Histogram.foldl_addPart (parts : List (String × Float)) (histogram : Histogram) :
    parts.foldl addPart histogram =
      ⟨(parts.map Prod.snd).foldl (· + ·) histogram.sum, histogram.count + parts.length,
        (parts.foldl addPart histogram).buckets⟩ := by
  induction parts generalizing histogram with
  | nil => rfl
  | cons part rest induction =>
      rw [List.foldl_cons, induction]
      simp [addPart, add, Nat.add_assoc, Nat.add_comm 1]

theorem Histogram.inBucket_addPart (histogram : Histogram) (part : String × Float)
    (bucket : String) :
    (histogram.addPart part).inBucket bucket =
      histogram.inBucket bucket + if part.1 = bucket then 1 else 0 := by
  rw [inBucket, addPart, add, Keyed.get?_change]
  by_cases same : bucket = part.1
  · simp [same, inBucket]
  · simp [same, Ne.symm same, inBucket]

theorem Histogram.inBucket_foldl (parts : List (String × Float)) (histogram : Histogram)
    (bucket : String) :
    (parts.foldl addPart histogram).inBucket bucket =
      histogram.inBucket bucket + parts.countP fun part => part.1 = bucket := by
  induction parts generalizing histogram with
  | nil => rfl
  | cons part rest induction =>
      rw [List.foldl_cons, induction, inBucket_addPart, List.countP_cons]
      simp only [decide_eq_true_eq]
      omega

/-! ## Bounds -/

namespace Observation

/-- Its duration is at most a bound. -/
def Within (observation : Observation) (bound : Json) : Prop :=
  observation.duration.precedes .atMost bound = .ok true

instance (observation : Observation) : DecidablePred observation.Within :=
  fun bound => inferInstanceAs (Decidable (observation.duration.precedes .atMost bound = .ok true))

end Observation

/-- Bounds of buckets are numbers that ascend. -/
structure Ascending (bounds : List Json) : Prop where
  numeric : ∀ bound ∈ bounds, bound.amount?.isSome = true
  ordered : bounds.Pairwise fun lower upper => lower.precedes .less upper = .ok true

/-- Ascending bounds are written in different ways, and none of them as the last bucket is. -/
theorem Ascending.distinct {bounds : List Json} (ascending : Ascending bounds) :
    (bounds.map Json.text ++ [Histogram.lastBucket]).Nodup := by
  rw [List.nodup_append]
  refine ⟨?_, List.nodup_singleton _, ?_⟩
  · rw [List.Nodup, List.pairwise_map]
    refine ascending.ordered.imp_of_mem fun lowerMember upperMember less => ?_
    exact Json.text_ne_of_less (ascending.numeric _ lowerMember) (ascending.numeric _ upperMember)
      less
  · intro text member last isLast
    rcases List.mem_map.mp member with ⟨bound, among, rfl⟩
    rw [List.mem_singleton.mp isLast]
    exact Json.text_ne_infinity (ascending.numeric bound among)

theorem Ascending.ofBounds {bounds : List Json} (ascending : Ascending bounds) :
    Ascending (Collector.ofBounds bounds).bounds := by
  rw [Collector.ofBounds]
  split
  · constructor <;> decide
  · exact ascending

namespace Observation

variable {observation : Observation} {bounds : List Json}

theorem within_of_less {lower upper : Json} (numeric : observation.duration.amount?.isSome = true)
    (lowerNumeric : lower.amount?.isSome = true) (upperNumeric : upper.amount?.isSome = true)
    (less : lower.precedes .less upper = .ok true) (within : observation.Within lower) :
    observation.Within upper := by
  rcases Option.isSome_iff_exists.mp numeric with ⟨duration, durationAmount⟩
  rcases Option.isSome_iff_exists.mp lowerNumeric with ⟨low, lowAmount⟩
  rcases Option.isSome_iff_exists.mp upperNumeric with ⟨high, highAmount⟩
  rw [Json.precedes_of_amounts _ lowAmount highAmount, Except.ok.injEq] at less
  rw [Within, Json.precedes_of_amounts _ durationAmount lowAmount, Except.ok.injEq] at within
  rw [Within, Json.precedes_of_amounts _ durationAmount highAmount, Except.ok.injEq]
  exact Amount.atMost_trans within (Bool.and_eq_true _ _ ▸ less).1

/-- The bucket is named by the first bound that the duration does not exceed. -/
theorem bucket_eq (numeric : observation.duration.amount?.isSome = true)
    (bounded : ∀ bound ∈ bounds, bound.amount?.isSome = true) :
    observation.bucket bounds =
      ((bounds.find? observation.Within).map Json.text).getD Histogram.lastBucket := by
  rcases Option.isSome_iff_exists.mp numeric with ⟨duration, durationAmount⟩
  induction bounds with
  | nil => rfl
  | cons bound rest induction =>
      rw [List.forall_mem_cons] at bounded
      rcases Option.isSome_iff_exists.mp bounded.1 with ⟨amount, isAmount⟩
      have compared := Json.precedes_of_amounts .atMost durationAmount isAmount
      rw [bucket, Histogram.bucketOf, compared]
      cases within : Json.Order.atMost.ofAmounts duration amount with
      | true =>
          have holds : observation.Within bound := by rw [Within, compared, within]
          simp [holds]
      | false =>
          have fails : ¬observation.Within bound := by simp [Within, compared, within]
          simp only [fails, decide_false, List.find?_cons]
          exact induction bounded.2

/-- A duration is counted in a bucket of its own exactly when it exceeds the bounds before and not
that of the bucket. -/
theorem bucket_eq_text_iff (numeric : observation.duration.amount?.isSome = true)
    {earlier later : List Json} {bound : Json}
    (bounded : ∀ other ∈ earlier ++ bound :: later, other.amount?.isSome = true)
    (distinct : ((earlier ++ bound :: later).map Json.text ++ [Histogram.lastBucket]).Nodup) :
    observation.bucket (earlier ++ bound :: later) = bound.text ↔
      (∀ other ∈ earlier, ¬observation.Within other) ∧ observation.Within bound := by
  simp only [List.map_append, List.map_cons, List.append_assoc, List.cons_append,
    List.nodup_append, List.nodup_cons, List.mem_append, List.mem_map, List.mem_cons,
    not_or] at distinct
  rcases distinct with ⟨_, ⟨⟨others, notLast, _⟩, _⟩, apart⟩
  rw [bucket_eq numeric bounded, List.find?_append]
  cases found : earlier.find? observation.Within with
  | some first =>
      have member := List.mem_of_find?_eq_some found
      have within : observation.Within first := by simpa using List.find?_some found
      refine iff_of_false ?_ fun above => above.1 first member within
      exact apart first.text ⟨first, member, rfl⟩ bound.text (.inl rfl)
  | none =>
      have above : ∀ other ∈ earlier, ¬observation.Within other := by
        simpa using List.find?_eq_none.mp found
      by_cases within : observation.Within bound
      · simpa [within] using above
      · refine iff_of_false ?_ fun holds => within holds.2
        simp only [within, decide_false, List.find?_cons, Option.none_or]
        cases next : later.find? observation.Within with
        | some other => exact fun same => others ⟨other, List.mem_of_find?_eq_some next, same⟩
        | none => exact fun same => notLast same.symm

theorem bucket_eq_last_iff (numeric : observation.duration.amount?.isSome = true)
    (bounded : ∀ bound ∈ bounds, bound.amount?.isSome = true)
    (distinct : (bounds.map Json.text ++ [Histogram.lastBucket]).Nodup) :
    observation.bucket bounds = Histogram.lastBucket ↔
      ∀ bound ∈ bounds, ¬observation.Within bound := by
  rw [bucket_eq numeric bounded]
  cases found : bounds.find? observation.Within with
  | some first =>
      have member := List.mem_of_find?_eq_some found
      have within : observation.Within first := by simpa using List.find?_some found
      refine iff_of_false ?_ fun above => above first member within
      rw [List.nodup_append] at distinct
      exact distinct.2.2 first.text (List.mem_map_of_mem member) _ (List.mem_singleton_self _)
  | none => exact iff_of_true rfl (by simpa using List.find?_eq_none.mp found)

/-- A duration within an earlier bound is within a later one. -/
theorem within_of_any (numeric : observation.duration.amount?.isSome = true)
    {earlier later : List Json} {bound : Json} (ascending : Ascending (earlier ++ bound :: later))
    (passed : earlier.any observation.Within = true) : observation.Within bound := by
  rcases List.any_eq_true.mp passed with ⟨lower, among, within⟩
  refine within_of_less numeric (ascending.numeric lower (List.mem_append_left _ among))
    (ascending.numeric bound (List.mem_append_right _ (List.mem_cons_self ..))) ?_
    (of_decide_eq_true within)
  exact (List.pairwise_append.mp ascending.ordered).2.2 lower among bound (List.mem_cons_self ..)

end Observation

/-! ## Lines -/

/-- The parts that some observations add to a histogram. -/
def partsIn (bounds : List Json) (observations : List Observation) : List (String × Float) :=
  observations.map fun observation => (observation.bucket bounds, observation.number)

section Lines

variable {bounds : List Json} {observations : List Observation}

theorem inBucket_partsIn (bucket : String) :
    ((partsIn bounds observations).foldl Histogram.addPart .empty).inBucket bucket =
      observations.countP fun observation => observation.bucket bounds = bucket := by
  rw [Histogram.inBucket_foldl, partsIn, List.countP_map]
  simp only [Histogram.inBucket, Histogram.empty, Keyed.get?, Keyed.empty, List.find?_nil,
    Option.map_none, Option.getD_none, Nat.zero_add]
  rfl

theorem countP_add_countP {α : Type} (first second both : α → Bool) (values : List α)
    (splits : ∀ value ∈ values, both value = (first value || second value) ∧
      ¬(first value = true ∧ second value = true)) :
    values.countP first + values.countP second = values.countP both := by
  induction values with
  | nil => rfl
  | cons value rest induction =>
      rw [List.forall_mem_cons] at splits
      have later := induction splits.2
      have here := splits.1
      cases isFirst : first value <;> cases isSecond : second value <;>
        simp_all <;> omega

/-- What was counted at earlier bounds and what is in the bucket of a bound are the durations within
the bound. -/
theorem countP_any_add_countP_bucket {earlier later : List Json} {bound : Json}
    (ascending : Ascending (earlier ++ bound :: later))
    (numeric : ∀ observation ∈ observations, observation.duration.amount?.isSome = true) :
    (observations.countP fun observation => earlier.any observation.Within) +
        (observations.countP fun observation =>
          observation.bucket (earlier ++ bound :: later) = bound.text) =
      observations.countP (·.Within bound) := by
  refine countP_add_countP _ _ _ observations fun observation member => ?_
  have own := Observation.bucket_eq_text_iff (numeric observation member) ascending.numeric
    ascending.distinct
  have above : (∀ other ∈ earlier, ¬observation.Within other) ↔
      earlier.any observation.Within = false := by simp
  rw [above] at own
  have lower := Observation.within_of_any (numeric observation member) ascending
  generalize (earlier.any fun other => decide (observation.Within other)) = passed at own lower ⊢
  cases passed with
  | true => simp [own, lower rfl]
  | false => simp [own]

/-- Each line shows how many durations do not exceed its bound, and the last one shows all. -/
theorem cumulative_eq (ascending : Ascending bounds)
    (numeric : ∀ observation ∈ observations, observation.duration.amount?.isSome = true) :
    ((partsIn bounds observations).foldl Histogram.addPart .empty).cumulative 0
        (bounds.map Json.text ++ [Histogram.lastBucket]) =
      (bounds.map fun bound => (bound.text, observations.countP (·.Within bound))) ++
        [(Histogram.lastBucket, observations.length)] := by
  -- Along the bounds, the number carried over is that of the durations within an earlier bound.
  suffices goesOn : ∀ later earlier, earlier ++ later = bounds →
      ((partsIn bounds observations).foldl Histogram.addPart .empty).cumulative
          (observations.countP fun observation => earlier.any observation.Within)
          (later.map Json.text ++ [Histogram.lastBucket]) =
        (later.map fun bound => (bound.text, observations.countP (·.Within bound))) ++
          [(Histogram.lastBucket, observations.length)] by
    simpa using goesOn bounds [] rfl
  intro later
  induction later with
  | nil =>
      intro earlier whole
      rw [List.append_nil] at whole
      subst whole
      simp only [List.map_nil, List.nil_append, Histogram.cumulative, inBucket_partsIn,
        List.cons.injEq, Prod.mk.injEq, true_and, and_true]
      rw [List.length_eq_countP_add_countP fun observation => earlier.any observation.Within]
      congr 1
      refine List.countP_congr fun observation member => ?_
      simp [Observation.bucket_eq_last_iff (numeric observation member) ascending.numeric
        ascending.distinct]
  | cons bound later induction =>
      intro earlier whole
      subst whole
      have next : (observations.countP fun observation =>
          (earlier ++ [bound]).any observation.Within) = observations.countP (·.Within bound) := by
        refine List.countP_congr fun observation member => ?_
        have lower := Observation.within_of_any (numeric observation member) ascending
        simpa [List.any_append] using lower
      simp only [List.map_cons, List.cons_append, Histogram.cumulative, inBucket_partsIn,
        countP_any_add_countP_bucket ascending numeric]
      congr 1
      rw [← next]
      exact induction _ (List.append_cons ..).symm

end Lines

end HybridSearch.Metrics
