import HybridSearch.Amount
import HybridSearch.Proofs.Number.Value

/-! The order of amounts. Integers and binary numbers have values of one kind and stand in the order of
these, so the order is transitive also where the two are mixed. -/

namespace HybridSearch.Amount

open Number (Extended)

def value? : Amount → Option Extended
  | integer value => some (.ofRat value)
  | float value => Number.value? value

theorem atMost_integer_float (left : Int) (right : Float) :
    (integer left).atMost (float right) = true ↔
      ∃ upper, Number.value? right = some upper ∧ .ofRat left ≤ upper := by
  rw [atMost]
  by_cases isNaN : right.isNaN = true
  · rw [if_pos isNaN, Number.value?_eq_none_iff.mpr isNaN]
    simp
  rw [if_neg isNaN]
  by_cases infinite : right.isInf = true
  · rw [if_pos infinite, Number.value?_of_isInf infinite]
    cases Number.isNegative right <;> simp
  · rw [if_neg infinite]
    rw [Bool.not_eq_true] at isNaN infinite
    rcases Number.value?_of_isFinite (Number.isFinite_iff.mpr ⟨isNaN, infinite⟩) with
      ⟨positive, found⟩
    have denominator : (0 : ℚ) < (Number.fraction right).2 := by exact_mod_cast positive
    simp only [found, Option.some.injEq, exists_eq_left', Number.Extended.ofRat_le_ofRat,
      le_div_iff₀ denominator, decide_eq_true_iff]
    norm_cast

theorem atMost_float_integer (left : Float) (right : Int) :
    (float left).atMost (integer right) = true ↔
      ∃ lower, Number.value? left = some lower ∧ lower ≤ .ofRat right := by
  rw [atMost]
  by_cases isNaN : left.isNaN = true
  · rw [if_pos isNaN, Number.value?_eq_none_iff.mpr isNaN]
    simp
  rw [if_neg isNaN]
  by_cases infinite : left.isInf = true
  · rw [if_pos infinite, Number.value?_of_isInf infinite]
    cases Number.isNegative left <;> simp
  · rw [if_neg infinite]
    rw [Bool.not_eq_true] at isNaN infinite
    rcases Number.value?_of_isFinite (Number.isFinite_iff.mpr ⟨isNaN, infinite⟩) with
      ⟨positive, found⟩
    have denominator : (0 : ℚ) < (Number.fraction left).2 := by exact_mod_cast positive
    simp only [found, Option.some.injEq, exists_eq_left', Number.Extended.ofRat_le_ofRat,
      div_le_iff₀ denominator, decide_eq_true_iff]
    norm_cast

/-- Amounts stand in the order of their values, of whichever kind they are. -/
theorem atMost_iff_exists_value {left right : Amount} :
    left.atMost right = true ↔ ∃ lower upper, left.value? = some lower ∧
      right.value? = some upper ∧ lower ≤ upper := by
  cases left with
  | integer left =>
      cases right with
      | integer right => simp [atMost, value?]
      | float right => simp [atMost_integer_float, value?]
  | float left =>
      cases right with
      | integer right => simp [atMost_float_integer, value?]
      | float right => simp [atMost, value?, Number.le_iff_exists_value]

theorem atMost_trans {low middle high : Amount} (first : low.atMost middle = true)
    (second : middle.atMost high = true) : low.atMost high = true := by
  rcases atMost_iff_exists_value.mp first with ⟨lower, _, lowValue, middleValue, below⟩
  rcases atMost_iff_exists_value.mp second with ⟨_, upper, sameValue, highValue, above⟩
  cases middleValue.symm.trans sameValue
  exact atMost_iff_exists_value.mpr ⟨lower, upper, lowValue, highValue, below.trans above⟩

/-- No amount is less than one of the same value. -/
theorem not_less_of_value?_eq {left right : Amount} (same : left.value? = right.value?) :
    left.less right = false := by
  rw [less]
  cases first : left.atMost right with
  | false => rfl
  | true =>
      rcases atMost_iff_exists_value.mp first with ⟨lower, _, leftValue, _⟩
      have back : right.atMost left = true :=
        atMost_iff_exists_value.mpr
          ⟨lower, lower, same.symm.trans leftValue, leftValue, le_refl lower⟩
      rw [back]
      rfl

theorem same_trans {left middle right : Amount} (first : left.same middle = true)
    (second : middle.same right = true) : left.same right = true := by
  simp only [same, Bool.and_eq_true] at *
  exact ⟨atMost_trans first.1 second.1, atMost_trans second.2 first.2⟩

end HybridSearch.Amount
