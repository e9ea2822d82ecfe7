import Mathlib.Tactic.LinearCombination
import HybridSearch.Number.Shortest
import HybridSearch.Proofs.Number.Value

/-! The digits that are chosen for a number lie among the reals that round to it, and no real rounds to
two numbers. So the digits tell the number. -/

namespace HybridSearch.Number

/-- The value of a decimal. -/
def Digits.value (decimal : Digits) : ℚ :=
  decimal.digits * 10 ^ decimal.exponent

namespace Binary

theorem zpow_mul_pow_toNat_neg (base : ℚ) (nonzero : base ≠ 0) (exponent : Int) :
    base ^ exponent * base ^ (-exponent).toNat = base ^ exponent.toNat := by
  rw [← zpow_natCast, ← zpow_natCast, ← zpow_add₀ nonzero]
  congr 1
  omega

/-- Decimals are compared exactly. -/
theorem compareDecimal_eq (decimal : Digits) (significand : Nat) (exponent : Int) :
    compareDecimal decimal significand exponent =
      compare decimal.value (dyadic significand exponent) := by
  -- Both sides are compared as naturals, multiplied by the same powers of two and ten.
  have scale : (0 : ℚ) < 10 ^ (-decimal.exponent).toNat * 2 ^ (-exponent).toNat := by positivity
  have left : decimal.value * (10 ^ (-decimal.exponent).toNat * 2 ^ (-exponent).toNat) =
      ((decimal.digits * 10 ^ decimal.exponent.toNat * 2 ^ (-exponent).toNat : Nat) : ℚ) := by
    push_cast
    rw [Digits.value, ← zpow_mul_pow_toNat_neg 10 (by norm_num) decimal.exponent]
    ring
  have right : dyadic significand exponent *
        (10 ^ (-decimal.exponent).toNat * 2 ^ (-exponent).toNat) =
      ((significand * 2 ^ exponent.toNat * 10 ^ (-decimal.exponent).toNat : Nat) : ℚ) := by
    push_cast
    rw [dyadic, ← zpow_mul_pow_toNat_neg 2 (by norm_num) exponent]
    ring
  rw [compareDecimal]
  simp only [Nat.pow_eq]
  rcases lt_trichotomy decimal.value (dyadic significand exponent) with below | same | above
  · rw [compare_lt_iff_lt.mpr below]
    rw [← mul_lt_mul_iff_of_pos_right scale, left, right] at below
    exact compare_lt_iff_lt.mpr (by exact_mod_cast below)
  · rw [compare_eq_iff_eq.mpr same]
    rw [← mul_left_inj' scale.ne', left, right] at same
    exact compare_eq_iff_eq.mpr (by exact_mod_cast same)
  · rw [compare_gt_iff_gt.mpr above]
    rw [← mul_lt_mul_iff_of_pos_right scale, left, right] at above
    exact compare_gt_iff_gt.mpr (by exact_mod_cast above)

/-- The lower end of the reals that round to a number. -/
def lower (value : Binary) : ℚ :=
  dyadic (4 * value.significand - if value.narrowBelow then 1 else 2) (value.exponent - 2)

/-- The upper end of the reals that round to a number. -/
def upper (value : Binary) : ℚ :=
  dyadic (4 * value.significand + 2) (value.exponent - 2)

/-- A real rounds to a number. The ends do so where the significand is even. -/
structure Covers (value : Binary) (real : ℚ) : Prop where
  above : value.lower ≤ real
  below : real ≤ value.upper
  even_of_end : real = value.lower ∨ real = value.upper → value.significand % 2 = 0

theorem readsBack_iff (value : Binary) (decimal : Digits) :
    value.readsBack decimal = true ↔ value.Covers decimal.value := by
  simp only [readsBack, compareDecimal_eq, Bool.and_eq_true, Bool.or_eq_true, beq_iff_eq,
    decide_eq_true_eq, compare_gt_iff_gt, compare_eq_iff_eq, compare_lt_iff_lt]
  change (value.lower < decimal.value ∨ _ ∧ decimal.value = value.lower) ∧
    (decimal.value < value.upper ∨ _ ∧ decimal.value = value.upper) ↔ _
  constructor
  · rintro ⟨low, high⟩
    refine ⟨?_, ?_, ?_⟩
    · exact low.elim le_of_lt fun both => both.2.ge
    · exact high.elim le_of_lt fun both => both.2.le
    · rintro (atLower | atUpper)
      · exact (low.resolve_left fun less => less.ne atLower.symm).1
      · exact (high.resolve_left fun less => less.ne atUpper).1
  · rintro ⟨above, below, closed⟩
    refine ⟨?_, ?_⟩
    · exact above.lt_or_eq.imp id fun same => ⟨closed (.inl same.symm), same.symm⟩
    · exact below.lt_or_eq.imp id fun same => ⟨closed (.inr same), same⟩

/-! ## One number for each real -/

theorem dyadic_add (mantissa : Nat) (exponent : Int) (shift : Nat) :
    dyadic mantissa (exponent + shift) = dyadic (mantissa * 2 ^ shift) exponent := by
  rw [dyadic, dyadic, zpow_add₀ (by norm_num), zpow_natCast]
  push_cast
  ring

theorem dyadic_le_iff {left right : Nat} {exponent : Int} :
    dyadic left exponent ≤ dyadic right exponent ↔ left ≤ right := by
  have power : (0 : ℚ) < 2 ^ exponent := zpow_pos (by norm_num) _
  simp [dyadic, mul_le_mul_iff_left₀ power]

theorem dyadic_inj {left right : Nat} {exponent : Int} :
    dyadic left exponent = dyadic right exponent ↔ left = right := by
  simp only [le_antisymm_iff, dyadic_le_iff]

/-- Reals that round to a number lie below those that round to a greater one. -/
theorem not_covers_of_less {mantissa other : Nat} {exponent otherExponent : Int}
    (first : Canonical mantissa exponent) (second : Canonical other otherExponent)
    (less : exponent < otherExponent ∨ exponent = otherExponent ∧ mantissa < other) {real : ℚ}
    (coversFirst : Covers ⟨mantissa, exponent, mantissa = 2 ^ 52 && -1074 < exponent⟩ real)
    (coversSecond :
      Covers ⟨other, otherExponent, other = 2 ^ 52 && -1074 < otherExponent⟩ real) : False := by
  rcases coversFirst with ⟨_, belowUpper, evenFirst⟩
  rcases coversSecond with ⟨aboveLower, _, evenSecond⟩
  -- The upper end of one number is at most the lower end of the other. Where the two meet, one of the
  -- significands is odd.
  suffices ends : upper ⟨mantissa, exponent, mantissa = 2 ^ 52 && -1074 < exponent⟩ ≤
        lower ⟨other, otherExponent, other = 2 ^ 52 && -1074 < otherExponent⟩ ∧
      (upper ⟨mantissa, exponent, mantissa = 2 ^ 52 && -1074 < exponent⟩ =
          lower ⟨other, otherExponent, other = 2 ^ 52 && -1074 < otherExponent⟩ →
        mantissa % 2 = 1 ∨ other % 2 = 1) by
    have meet := le_antisymm ends.1 (aboveLower.trans belowUpper)
    have first := evenFirst (.inr (le_antisymm belowUpper (meet.trans_le aboveLower)))
    have second := evenSecond (.inl (le_antisymm (belowUpper.trans meet.le) aboveLower))
    have odd := ends.2 meet
    dsimp only at first second
    omega
  simp only [upper, lower]
  have positive := second.positive
  rcases less with less | ⟨rfl, less⟩
  · rcases Int.eq_ofNat_of_zero_le (sub_nonneg.mpr (Int.add_one_le_of_lt less)) with ⟨shift, gap⟩
    have apart : otherExponent - 2 = exponent - 2 + (shift + 1 : Nat) := by
      push_cast
      linarith
    rw [apart, dyadic_add, dyadic_le_iff, dyadic_inj]
    have full := second.full.resolve_left (by have := first.lowest; omega)
    have narrow : -1074 < otherExponent := by have := first.lowest; omega
    have short := first.short
    have power : 2 ≤ 2 ^ (shift + 1) := Nat.le_self_pow (Nat.succ_ne_zero shift) 2
    have least : 2 ^ 54 - 1 ≤ 4 * other -
        if (other = 2 ^ 52 && -1074 < otherExponent) = true then 1 else 2 := by
      simp only [narrow, decide_true, Bool.and_true, decide_eq_true_eq]
      split <;> omega
    have product := Nat.mul_le_mul least power
    refine ⟨by omega, fun same => .inl (by omega)⟩
  · rw [dyadic_le_iff, dyadic_inj]
    split <;> omega

/-- No real rounds to two numbers. -/
theorem eq_of_covers {mantissa other : Nat} {exponent otherExponent : Int}
    (first : Canonical mantissa exponent) (second : Canonical other otherExponent) {real : ℚ}
    (coversFirst : Covers ⟨mantissa, exponent, mantissa = 2 ^ 52 && -1074 < exponent⟩ real)
    (coversSecond :
      Covers ⟨other, otherExponent, other = 2 ^ 52 && -1074 < otherExponent⟩ real) :
    mantissa = other ∧ exponent = otherExponent := by
  by_contra different
  rcases lt_trichotomy exponent otherExponent with less | rfl | greater
  · exact not_covers_of_less first second (.inl less) coversFirst coversSecond
  · rcases lt_or_gt_of_ne fun same => different ⟨same, rfl⟩ with less | greater
    · exact not_covers_of_less first second (.inr ⟨rfl, less⟩) coversFirst coversSecond
    · exact not_covers_of_less second first (.inr ⟨rfl, greater⟩) coversSecond coversFirst
  · exact not_covers_of_less second first (.inl greater) coversSecond coversFirst

/-! ## The chosen digits -/

theorem value_dropZeros (limit : Nat) (decimal : Digits) :
    (dropZeros limit decimal).value = decimal.value := by
  induction limit generalizing decimal with
  | zero => rfl
  | succ limit induction =>
      rw [dropZeros]
      split
      · next trailing =>
        rw [induction, Digits.value, Digits.value, zpow_add_one₀ (by norm_num)]
        have digits : (decimal.digits : ℚ) = (decimal.digits / 10 : Nat) * 10 := by
          exact_mod_cast (Nat.div_mul_cancel (Nat.dvd_of_mod_eq_zero trailing)).symm
        rw [digits]
        ring
      · rfl

theorem value_exactDigits (value : Binary) :
    value.exactDigits.value = dyadic value.significand value.exponent := by
  rw [exactDigits, Digits.value, dyadic]
  simp only [Nat.pow_eq]
  push_cast
  rcases Int.le_total 0 value.exponent with whole | fractional
  · have none : (-value.exponent).toNat = 0 := by omega
    rw [min_eq_right whole, none, ← zpow_mul_pow_toNat_neg 2 (by norm_num) value.exponent, none]
    ring
  · have none : value.exponent.toNat = 0 := by omega
    have tens : (10 : ℚ) ^ value.exponent = 2 ^ value.exponent * 5 ^ value.exponent := by
      rw [← mul_zpow]
      norm_num
    have fives : (5 : ℚ) ^ value.exponent * 5 ^ (-value.exponent).toNat = 1 := by
      rw [zpow_mul_pow_toNat_neg 5 (by norm_num), none, pow_zero]
    rw [min_eq_left fractional, none, tens]
    linear_combination (value.significand * 2 ^ value.exponent : ℚ) * fives

theorem covers_dyadic {value : Binary} (positive : 0 < value.significand) :
    value.Covers (dyadic value.significand value.exponent) := by
  have quarters : dyadic value.significand value.exponent =
      dyadic (4 * value.significand) (value.exponent - 2) := by
    rw [← sub_add_cancel value.exponent 2]
    exact (dyadic_add _ _ 2).trans (by rw [Nat.mul_comm]; norm_num)
  rw [quarters]
  constructor
  · rw [lower, dyadic_le_iff]
    exact Nat.sub_le ..
  · rw [upper, dyadic_le_iff]
    exact Nat.le_add_right ..
  · rw [lower, upper, dyadic_inj, dyadic_inj]
    split <;> omega

theorem covers_of_onGrid? {value : Binary} {exponent : Int} {decimal : Digits}
    (found : value.onGrid? exponent = some decimal) : value.Covers decimal.value := by
  rw [← readsBack_iff]
  rw [onGrid?] at found
  dsimp only at found
  split at found
  · split at found <;> cases found
    · assumption
    · assumption
    · split <;> assumption
  · cases found
    assumption
  · cases found
    assumption
  · cases found

/-- The digits that are chosen for a number round to it. -/
theorem covers_shortest {value : Binary} (positive : 0 < value.significand) :
    value.Covers value.shortest.value := by
  unfold shortest
  dsimp only
  split
  · next decimal found =>
    rcases List.exists_of_findSome?_eq_some found with ⟨count, _, onGrid⟩
    rw [value_dropZeros]
    exact covers_of_onGrid? onGrid
  · rw [value_exactDigits]
    exact covers_dyadic positive

end Binary

end HybridSearch.Number
