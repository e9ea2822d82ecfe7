import HybridSearch.Proofs.Amount
import HybridSearch.Proofs.Number.Overflow

/-! Naturals below 2^53 as binary numbers. Each is a number itself, and so is the sum of two of them
while it stays below, so what is counted in binary numbers is counted exactly. -/

namespace HybridSearch.Number

open Float.Model (Format UnpackedFloat)
open Float.Model.UnpackedFloat

/-- A natural, taken apart as a number: with 53 bits, unless it is zero. -/
inductive IsWhole : Nat → UnpackedFloat → Prop where
  | zero : IsWhole 0 (.zero .positive)
  | positive {value : Nat} (positive : 0 < value) :
      IsWhole value (.finite .positive (value * 2 ^ (52 - value.log2)) (value.log2 - 52)
        (filled_pos positive))

/-- A number is a natural. -/
def Whole (number : Float) (value : Nat) : Prop :=
  value < 2 ^ 53 ∧ IsWhole value number.toModel.unpack

theorem log2_le {value : Nat} (positive : 0 < value) (small : value < 2 ^ 53) : value.log2 ≤ 52 :=
  Nat.le_of_lt_succ ((Nat.log2_lt (by omega)).mpr small)

theorem IsWhole.unpack_pack {value : Nat} {unpacked : UnpackedFloat} (small : value < 2 ^ 53)
    (isWhole : IsWhole value unpacked) :
    unpack Format.binary64 (pack Format.binary64 unpacked) = unpacked := by
  cases isWhole with
  | zero => rfl
  | positive positive =>
      have short := log2_le positive small
      exact unpack_pack_finite .positive _ (log2_filled positive short) (by omega) (by omega)

/-- The zeros behind a natural are as many as another exponent asks for. -/
theorem decreaseExponent_filled {value zeros : Nat} (short : value.log2 ≤ 52)
    (enough : 52 ≤ value.log2 + zeros) :
    decreaseExponent (value * 2 ^ (52 - value.log2)) (value.log2 - 52) (-(zeros : Int)) =
      (value * 2 ^ zeros, -(zeros : Int)) := by
  have amount : ((value.log2 : Int) - 52 - -(zeros : Int)).toNat = value.log2 + zeros - 52 := by
    omega
  have width : 52 - value.log2 + (value.log2 + zeros - 52) = zeros := by omega
  have exponent : (value.log2 : Int) - 52 - (value.log2 + zeros - 52 : Nat) = -(zeros : Int) := by
    omega
  simp only [decreaseExponent, amount, exponent, Nat.shiftLeft_eq, Nat.mul_assoc, ← Nat.pow_add,
    width]

theorem normalize_natCast {mantissa : Nat} (positive : 0 < mantissa) (exponent : Int) :
    UnpackedFloat.normalize Format.binary64 mantissa exponent .positive =
      UnpackedFloat.round Format.binary64 .positive mantissa exponent := by
  have ordered : compare (mantissa : Int) 0 = .gt := by
    rw [Int.compare_eq_gt]
    omega
  rw [UnpackedFloat.normalize, ordered]
  rfl

/-- A sum of naturals is taken without rounding. -/
theorem IsWhole.add {left right : Nat} {first second : UnpackedFloat}
    (leftWhole : IsWhole left first) (rightWhole : IsWhole right second)
    (small : left + right < 2 ^ 53) :
    IsWhole (left + right) (UnpackedFloat.add Format.binary64 first second) := by
  cases leftWhole with
  | zero =>
      rw [Nat.zero_add]
      cases rightWhole with
      | zero => exact .zero
      | positive positive => exact .positive positive
  | positive leftPositive =>
      cases rightWhole with
      | zero => exact .positive leftPositive
      | positive rightPositive =>
          have leftShort := log2_le leftPositive (by omega)
          have rightShort := log2_le rightPositive (by omega)
          have sumPositive : 0 < left + right := by omega
          have sumShort := log2_le sumPositive small
          obtain ⟨zeros, zerosEq⟩ : ∃ zeros, zeros = 52 - min left.log2 right.log2 := ⟨_, rfl⟩
          have smaller : min ((left.log2 : Int) - 52) (right.log2 - 52) = -(zeros : Int) := by omega
          have sum : (left * 2 ^ zeros : Nat) + (right * 2 ^ zeros : Nat) =
              (((left + right) * 2 ^ zeros : Nat) : Int) := by
            rw [← Nat.cast_add, ← Nat.add_mul]
          have filled : 0 < (left + right) * 2 ^ zeros := Nat.mul_pos sumPositive (Nat.two_pow_pos _)
          dsimp only [UnpackedFloat.add]
          rw [smaller, decreaseExponent_filled leftShort (by omega),
            decreaseExponent_filled rightShort (by omega)]
          dsimp only [Sign.apply]
          rw [sum, normalize_natCast filled, round_eq_finite sumPositive sumShort]
          exact .positive sumPositive

theorem Whole.add {first second : Float} {left right : Nat} (leftWhole : Whole first left)
    (rightWhole : Whole second right) (small : left + right < 2 ^ 53) :
    Whole (first + second) (left + right) := by
  have sum := leftWhole.2.add rightWhole.2 small
  refine ⟨small, ?_⟩
  have packed : (first + second).toModel.unpack = unpack Format.binary64 (pack Format.binary64
      (UnpackedFloat.add Format.binary64 first.toModel.unpack second.toModel.unpack)) := rfl
  rw [packed, sum.unpack_pack small]
  exact sum

theorem whole_zero : Whole 0.0 0 :=
  ⟨by decide, .zero⟩

theorem whole_one : Whole 1.0 1 :=
  ⟨by decide, .positive Nat.one_pos⟩

theorem whole_ofScientific {value : Nat} (small : value < 2 ^ 53) :
    Whole (Float.ofScientific value false 0) value := by
  refine ⟨small, ?_⟩
  rcases Nat.eq_zero_or_pos value with rfl | positive
  · exact .zero
  · rw [unpack_ofScientific positive small]
    exact .positive positive

theorem Whole.not_isInf {number : Float} {value : Nat} (whole : Whole number value) :
    number.isInf = false := by
  have isWhole := whole.2
  change number.toModel.unpack.isInf = false
  generalize number.toModel.unpack = unpacked at isWhole ⊢
  cases isWhole <;> rfl

theorem exists_ofInteger? {value : Nat} (small : value < 2 ^ 53) :
    ∃ number, ofInteger? value = some number ∧ Whole number value := by
  have whole := whole_ofScientific small
  refine ⟨_, ?_, whole⟩
  have notNegative : ¬(value : Int) < 0 := by omega
  simp [ofInteger?, whole.not_isInf, notNegative]

theorem Whole.value?_eq {number : Float} {value : Nat} (whole : Whole number value) :
    value? number = some (.ofRat value) := by
  rcases whole with ⟨small, isWhole⟩
  rw [value?]
  generalize number.toModel.unpack = unpacked at isWhole ⊢
  cases isWhole with
  | zero =>
      rw [Nat.cast_zero]
      rfl
  | positive positive =>
      have short := log2_le positive small
      have exponent : (value.log2 : Int) - 52 = -(52 - value.log2 : Nat) := by omega
      have exact : dyadic (value * 2 ^ (52 - value.log2)) (value.log2 - 52) = value := by
        rw [dyadic, exponent, zpow_neg, zpow_natCast, Nat.cast_mul, Nat.cast_pow, Nat.cast_ofNat,
          mul_assoc, mul_inv_cancel₀ (pow_ne_zero _ two_ne_zero), mul_one]
      change some (Extended.ofRat (dyadic _ _)) = _
      rw [exact]

/-- A natural and the number that it is are the same amount. -/
theorem Whole.same {number : Float} {value : Nat} (whole : Whole number value) :
    Amount.same (.integer value) (.float number) = true := by
  have integer : Amount.value? (.integer value) = some (.ofRat value) := by simp [Amount.value?]
  have float : Amount.value? (.float number) = some (.ofRat value) := whole.value?_eq
  rw [Amount.same, Bool.and_eq_true]
  exact ⟨Amount.atMost_iff_exists_value.mpr ⟨_, _, integer, float, le_refl _⟩,
    Amount.atMost_iff_exists_value.mpr ⟨_, _, float, integer, le_refl _⟩⟩

end HybridSearch.Number
