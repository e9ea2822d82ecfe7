import HybridSearch.Proofs.Number.Quotient
import HybridSearch.Proofs.Request
import HybridSearch.Retrieval

/-! Plans of searches. The share of one knowledge base is rounded up from a binary number, so it is the
exact ceiling only as long as that number keeps it; beyond the largest number there is no plan at all. A
valid request wants few enough results for this never to matter. -/

namespace HybridSearch

namespace Strategy

theorem select_natCast {bases count : Nat} (someBase : 1 ≤ bases) (positive : 1 ≤ count) :
    select bases count = plan bases count := by
  rw [select, if_neg (by omega), if_neg (by omega), Int.toNat_natCast, Int.toNat_natCast]

/-- There is a plan unless the share of one knowledge base is beyond the largest number. -/
theorem select_eq_error_iff {bases count : Nat} (someBase : 1 ≤ bases) (positive : 1 ≤ count) :
    select bases count = .error .quotientTooLarge ↔ Number.overflowBound * bases ≤ count := by
  rw [select_natCast someBase positive, ← Number.Quotient.overflows_iff positive someBase, plan,
    limitFor]
  cases (Number.Quotient.of count bases).overflows <;> simp [Except.map]

theorem exists_select {bases count : Nat} (someBase : 1 ≤ bases) (positive : 1 ≤ count)
    (bounded : count < Number.overflowBound * bases) :
    ∃ strategy, select bases count = .ok strategy ∧
      strategy.parallelLimit = (Number.Quotient.of count bases).ceil + 5 := by
  have within : (Number.Quotient.of count bases).overflows = false := by
    rw [← Bool.not_eq_true, Number.Quotient.overflows_iff positive someBase]
    exact Nat.not_le_of_lt bounded
  rw [select_natCast someBase positive, plan, limitFor]
  simp only [within]
  exact ⟨_, rfl, rfl⟩

/-- There is a plan for any number of knowledge bases and any number of results that may be asked
for. -/
theorem exists_select_eq_ok {bases count : Nat} (someBase : 1 ≤ bases) (positive : 1 ≤ count)
    (bounded : count ≤ greatestCount) : ∃ strategy, select bases count = .ok strategy := by
  have small : greatestCount < Number.overflowBound := by decide +kernel
  have within : count < Number.overflowBound * bases :=
    Nat.lt_of_le_of_lt bounded (Nat.lt_of_lt_of_le small (Nat.le_mul_of_pos_right _ someBase))
  rcases exists_select someBase positive within with ⟨strategy, planned, _⟩
  exact ⟨strategy, planned⟩

/-- Where the limit of a plan is exact. There is a plan as long as the share of one knowledge base is not
beyond the largest number; its limit is the exact ceiling of the share, and five more, as long as the
ceiling survives rounding. Up to `2 ^ 53` results it does, unless there are so many knowledge bases that
the share becomes zero. Limits that are exact make up for all results that are wanted. -/
theorem limit_exact_iff (bases count : Nat) (someBase : 1 ≤ bases) (positive : 1 ≤ count) :
    (select bases count = .error .quotientTooLarge ↔ Number.overflowBound * bases ≤ count) ∧
    (count < Number.overflowBound * bases → ∃ strategy, select bases count = .ok strategy ∧
      (strategy.parallelLimit = ⌈(count : ℚ) / bases⌉₊ + 5 ↔
        Number.Quotient.KeepsCeiling count bases) ∧
      (strategy.parallelLimit = ⌈(count : ℚ) / bases⌉₊ + 5 →
        count + 5 * bases ≤ bases * strategy.parallelLimit)) ∧
    (count ≤ 2 ^ 53 → bases < 2 ^ 1075 * count →
      count < Number.overflowBound * bases ∧ Number.Quotient.KeepsCeiling count bases) := by
  refine ⟨select_eq_error_iff someBase positive, fun bounded => ?_, fun small nonzero => ?_⟩
  · rcases exists_select someBase positive bounded with ⟨strategy, planned, limit⟩
    refine ⟨strategy, planned, ?_, fun exact => ?_⟩
    · rw [limit, Nat.add_right_cancel_iff]
      exact Number.Quotient.ceil_eq_iff positive someBase
    · have enough : count ≤ bases * ⌈(count : ℚ) / bases⌉₊ :=
        (Number.ceilDiv_le_iff someBase).mp (Number.ceil_div_eq someBase).ge
      rw [exact, Nat.mul_add]
      omega
  · have beyond : 2 ^ 53 < Number.overflowBound := by decide +kernel
    have within := Nat.le_mul_of_pos_right Number.overflowBound someBase
    exact ⟨by omega, Number.Quotient.keepsCeiling_of_small someBase small nonzero⟩

/-- A hundred results from three knowledge bases; and the first share of four that loses its rest. -/
theorem limit_of_many_results :
    (∃ strategy, select (3 : Nat) (100 : Nat) = .ok strategy ∧
      strategy.parallelLimit = ⌈((100 : Nat) : ℚ) / (3 : Nat)⌉₊ + 5) ∧
    ∃ strategy, select (4 : Nat) (2 ^ 54 + 1 : Nat) = .ok strategy ∧
      strategy.parallelLimit ≠ ⌈((2 ^ 54 + 1 : Nat) : ℚ) / (4 : Nat)⌉₊ + 5 := by
  constructor
  · have limits := limit_exact_iff 3 100 (by decide) (by decide)
    have small := limits.2.2 (by decide) (by decide +kernel)
    rcases limits.2.1 small.1 with ⟨strategy, planned, exact, _⟩
    exact ⟨strategy, planned, exact.mpr small.2⟩
  · have limits := limit_exact_iff 4 (2 ^ 54 + 1) (by decide) (by decide)
    rcases limits.2.1 (by decide +kernel) with ⟨strategy, planned, exact, _⟩
    refine ⟨strategy, planned, exact.not.mpr fun kept => ?_⟩
    have bits : Nat.log2 (2 ^ 52) = 52 := Nat.log2_two_pow
    simp only [Number.Quotient.KeepsCeiling, show (2 ^ 54 + 1) / 4 = 2 ^ 52 by decide,
      show (2 ^ 54 + 1) % 4 = 1 by decide, bits] at kept
    revert kept
    decide

/-- A single knowledge base is not always searched for all results that are wanted. -/
theorem not_all_limits_exact :
    ¬∀ bases count : Int, 1 ≤ bases → 1 ≤ count → ∃ strategy, select bases count = .ok strategy ∧
      (strategy.parallelLimit : Int) = ⌈(count : ℚ) / bases⌉ + 5 := by
  intro claim
  rcases claim 1 (2 ^ 53 + 1) (by decide) (by decide) with ⟨strategy, planned, exact⟩
  have limit : (select 1 (2 ^ 53 + 1)).toOption.map parallelLimit = some (2 ^ 53 + 5) := by
    decide +kernel
  rw [planned] at limit
  have rounded : strategy.parallelLimit = 2 ^ 53 + 5 := Option.some.inj limit
  rw [rounded, Int.cast_one, div_one, Int.ceil_intCast] at exact
  revert exact
  decide

end Strategy

theorem SearchRequest.Valid.exists_strategy {request : SearchRequest} (valid : request.Valid) :
    ∃ strategy, request.strategy = .ok strategy :=
  Strategy.exists_select_eq_ok (List.length_pos_iff.mpr valid.bases_ne_nil) valid.count_pos
    valid.count_le

end HybridSearch
