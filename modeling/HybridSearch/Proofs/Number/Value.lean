import Mathlib.Algebra.Order.Field.Power
import Mathlib.Data.Rat.Floor
import Mathlib.Order.WithBot
import Mathlib.Tactic.IntervalCases
import Mathlib.Tactic.Linarith
import Mathlib.Tactic.NormNum
import Mathlib.Tactic.Ring
import HybridSearch.Number.Binary
import HybridSearch.Proofs.Number.Order
import HybridSearch.Proofs.Number.Overflow

/-! The values of binary numbers. A finite number is a significand of 53 bits times a power of two, and
both stand in its bits, so the numbers stand in the order of their values, and the fraction that is read
off the bits of a number is its value. -/

namespace HybridSearch.Number

open Float.Model (Format UnpackedFloat)
open Float.Model.UnpackedFloat

/-- A significand and an exponent as a finite number is kept with: 53 bits, or fewer at the least
exponent. -/
structure Canonical (mantissa : Nat) (exponent : Int) : Prop where
  positive : 0 < mantissa
  short : mantissa < 2 ^ 53
  lowest : -1074 ≤ exponent
  highest : exponent < 972
  full : exponent = -1074 ∨ 2 ^ 52 ≤ mantissa

/-! ## Fields of the bits -/

def exponentField (number : Float) : Nat :=
  number.toBits.toNat / 2 ^ 52 % 2 ^ 11

def fractionField (number : Float) : Nat :=
  number.toBits.toNat % 2 ^ 52

theorem exponentField_eq (number : Float) :
    (@unpackExponent .binary64 number.toModel.toBits.toBitVec).toNat =
      exponentField number := by
  rw [unpackExponent, BitVec.toNat_cast, BitVec.extractLsb_toNat, Nat.shiftRight_eq_div_pow]
  rfl

theorem fractionField_eq (number : Float) :
    (@unpackMantissa .binary64 number.toModel.toBits.toBitVec).toNat =
      fractionField number := by
  rw [unpackMantissa, BitVec.toNat_cast, BitVec.extractLsb_toNat, Nat.shiftRight_eq_div_pow,
    Nat.pow_zero, Nat.div_one]
  rfl

theorem sign_eq (number : Float) :
    Sign.ofBitVec (@unpackSign .binary64 number.toModel.toBits.toBitVec) =
      if isNegative number then .negative else .positive := by
  have below : number.toBits.toNat < 2 ^ 64 := number.toBits.toNat_lt
  have field : (@unpackSign .binary64 number.toModel.toBits.toBitVec).toNat =
      number.toBits.toNat / 2 ^ 63 := by
    delta unpackSign
    rw [BitVec.toNat_cast, BitVec.extractLsb_toNat, Nat.shiftRight_eq_div_pow]
    change number.toBits.toNat / 2 ^ 63 % 2 = _
    omega
  have negative : isNegative number = decide (number.toBits.toNat / 2 ^ 63 = 1) := by
    rw [isNegative, Bool.eq_iff_iff, beq_iff_eq, decide_eq_true_iff, ← UInt64.toNat_inj,
      UInt64.toNat_shiftRight, Nat.shiftRight_eq_div_pow]
    rfl
  rw [negative, Sign.ofBitVec]
  simp only [← BitVec.toNat_inj, field]
  have oneBit : number.toBits.toNat / 2 ^ 63 < 2 := by omega
  generalize number.toBits.toNat / 2 ^ 63 = bit at oneBit
  interval_cases bit <;> rfl

theorem toNat_exponentBits (number : Float) :
    ((number.toBits >>> 52) &&& 0x7FF).toNat = exponentField number := by
  rw [UInt64.toNat_and, UInt64.toNat_shiftRight, Nat.shiftRight_eq_div_pow]
  exact Nat.and_two_pow_sub_one_eq_mod _ 11

theorem toNat_fractionBits (number : Float) :
    (number.toBits &&& 0xFFFFFFFFFFFFF).toNat = fractionField number := by
  rw [UInt64.toNat_and]
  exact Nat.and_two_pow_sub_one_eq_mod _ 52

theorem ofFloat_eq (number : Float) :
    Binary.ofFloat number =
      if exponentField number = 0 then ⟨fractionField number, -1074, false⟩
      else ⟨2 ^ 52 + fractionField number, exponentField number - 1075,
        fractionField number = 0 && exponentField number > 1⟩ := by
  simp only [Binary.ofFloat, toNat_exponentBits, toNat_fractionBits]
  rfl

theorem toNat_leadingOne (number : Float) :
    (1#1 ++ @unpackMantissa .binary64
      number.toModel.toBits.toBitVec).toNat = 2 ^ 52 + fractionField number := by
  have small : fractionField number < 2 ^ 52 := Nat.mod_lt _ (by decide)
  rw [BitVec.toNat_append, fractionField_eq, Nat.shiftLeft_eq]
  exact (Nat.two_pow_add_eq_or_of_lt small 1).symm

/-- A finite number is read off its bits as it is unpacked. -/
theorem ofFloat_of_finite {number : Float} {sign : Sign} {mantissa : Nat} {exponent : Int}
    {positive : 0 < mantissa}
    (unpacked : number.toModel.unpack = .finite sign mantissa exponent positive) :
    Binary.ofFloat number = ⟨mantissa, exponent, mantissa = 2 ^ 52 && -1074 < exponent⟩ ∧
      (if isNegative number then Sign.negative else .positive) = sign ∧
      Canonical mantissa exponent := by
  have exponentSmall : exponentField number < 2 ^ 11 := Nat.mod_lt _ (by decide)
  have fractionSmall : fractionField number < 2 ^ 52 := Nat.mod_lt _ (by decide)
  have notGreatest := isFinite_unpack_iff.mp ((congrArg UnpackedFloat.isFinite unpacked).trans rfl)
  have below : exponentField number ≠ 2047 := by
    rw [ne_eq, ← BitVec.toNat_inj, exponentField_eq] at notGreatest
    exact notGreatest
  by_cases least : @unpackExponent .binary64 number.toModel.toBits.toBitVec = 0#11
  · have zero : exponentField number = 0 := by rw [← exponentField_eq, least]; rfl
    by_cases empty : @unpackMantissa .binary64 number.toModel.toBits.toBitVec = 0#52
    · cases (unpack_of_zero least empty).symm.trans unpacked
    · rcases unpack_of_least least empty with ⟨filled, subnormal⟩
      injection subnormal.symm.trans unpacked with sameSign sameMantissa sameExponent
      rw [exponentField_eq, zero] at sameExponent
      rw [fractionField_eq] at sameMantissa
      have lowest : exponent = -1074 := by omega
      subst sameMantissa lowest
      rw [fractionField_eq] at filled
      refine ⟨?_, (sign_eq number).symm.trans sameSign, ?_⟩
      · rw [ofFloat_eq, if_pos zero]
        simp
      · constructor <;> omega
  · have above : exponentField number ≠ 0 := by
      rw [← BitVec.toNat_inj, exponentField_eq] at least
      exact least
    rcases unpack_of_between notGreatest least with ⟨leading, normal⟩
    injection normal.symm.trans unpacked with sameSign sameMantissa sameExponent
    rw [toNat_leadingOne] at sameMantissa
    rw [exponentField_eq] at sameExponent
    subst sameMantissa sameExponent
    refine ⟨?_, (sign_eq number).symm.trans sameSign, ?_⟩
    · rw [ofFloat_eq, if_neg above]
      congr 1
      rw [Bool.eq_iff_iff]
      simp
      omega
    · constructor <;> omega

theorem ofFloat_of_zero {number : Float} {sign : Sign}
    (unpacked : number.toModel.unpack = .zero sign) :
    Binary.ofFloat number = ⟨0, -1074, false⟩ := by
  have notGreatest := isFinite_unpack_iff.mp ((congrArg UnpackedFloat.isFinite unpacked).trans rfl)
  by_cases least : @unpackExponent .binary64 number.toModel.toBits.toBitVec = 0#11
  · by_cases empty : @unpackMantissa .binary64 number.toModel.toBits.toBitVec = 0#52
    · have zero : exponentField number = 0 := by rw [← exponentField_eq, least]; rfl
      have noFraction : fractionField number = 0 := by rw [← fractionField_eq, empty]; rfl
      rw [ofFloat_eq, if_pos zero, noFraction]
    · rcases unpack_of_least least empty with ⟨_, subnormal⟩
      cases subnormal.symm.trans unpacked
  · rcases unpack_of_between notGreatest least with ⟨_, normal⟩
    cases normal.symm.trans unpacked

theorem sign_of_infinity {number : Float} {sign : Sign}
    (unpacked : number.toModel.unpack = .infinity sign) :
    (if isNegative number then Sign.negative else .positive) = sign := by
  rcases (isInf_unpack_iff _).mp ((congrArg UnpackedFloat.isInf unpacked).trans rfl) with
    ⟨greatest, empty⟩
  have infinite := (unpack_of_greatest greatest).trans (if_pos empty)
  injection infinite.symm.trans unpacked with sameSign
  exact (sign_eq number).symm.trans sameSign

/-! ## Values -/

/-- The rational numbers with an infinite one at each end. -/
abbrev Extended : Type :=
  WithBot (WithTop ℚ)

namespace Extended

def ofRat (value : ℚ) : Extended :=
  ((value : WithTop ℚ) : WithBot (WithTop ℚ))

@[simp] theorem ofRat_le_ofRat {left right : ℚ} : ofRat left ≤ ofRat right ↔ left ≤ right := by
  simp [ofRat]

@[simp] theorem ofRat_ne_top (value : ℚ) : ofRat value ≠ ⊤ := by
  simp [ofRat, ← WithBot.coe_top]

@[simp] theorem ofRat_ne_bot (value : ℚ) : ofRat value ≠ ⊥ := by
  simp [ofRat]

end Extended

/-- A significand times a power of two. -/
def dyadic (mantissa : Nat) (exponent : Int) : ℚ :=
  mantissa * 2 ^ exponent

/-- The value of a number, which may be infinite. What is no number has none. -/
def unpackedValue? : UnpackedFloat → Option Extended
  | .notANumber => none
  | .infinity .negative => some ⊥
  | .infinity .positive => some ⊤
  | .zero _ => some (.ofRat 0)
  | .finite .negative mantissa exponent _ => some (.ofRat (-dyadic mantissa exponent))
  | .finite .positive mantissa exponent _ => some (.ofRat (dyadic mantissa exponent))

theorem dyadic_pos {mantissa : Nat} (positive : 0 < mantissa) (exponent : Int) :
    0 < dyadic mantissa exponent :=
  mul_pos (by exact_mod_cast positive) (zpow_pos (by norm_num) _)

theorem dyadic_lt_of_exponent_lt {mantissa other : Nat} {exponent greater : Int}
    (first : Canonical mantissa exponent) (second : Canonical other greater)
    (less : exponent < greater) : dyadic mantissa exponent < dyadic other greater := by
  have full : 2 ^ 52 ≤ other := second.full.resolve_left (by have := first.lowest; omega)
  have power : (0 : ℚ) < 2 ^ exponent := zpow_pos (by norm_num) _
  calc dyadic mantissa exponent
      < 2 ^ 53 * 2 ^ exponent := by
        refine mul_lt_mul_of_pos_right ?_ power
        exact_mod_cast first.short
    _ = 2 ^ 52 * 2 ^ (exponent + 1) := by
        rw [zpow_add_one₀ (by norm_num)]
        ring
    _ ≤ 2 ^ 52 * 2 ^ greater := by
        refine mul_le_mul_of_nonneg_left ?_ (by norm_num)
        exact zpow_le_zpow_right₀ (by norm_num) less
    _ ≤ dyadic other greater := by
        refine mul_le_mul_of_nonneg_right ?_ (zpow_nonneg (by norm_num) _)
        exact_mod_cast full

theorem dyadic_le_dyadic_iff {mantissa other : Nat} {exponent otherExponent : Int}
    (first : Canonical mantissa exponent) (second : Canonical other otherExponent) :
    dyadic mantissa exponent ≤ dyadic other otherExponent ↔
      exponent < otherExponent ∨ exponent = otherExponent ∧ mantissa ≤ other := by
  rcases lt_trichotomy exponent otherExponent with less | rfl | greater
  · exact iff_of_true (dyadic_lt_of_exponent_lt first second less).le (.inl less)
  · have power : (0 : ℚ) < 2 ^ exponent := zpow_pos (by norm_num) _
    simp [dyadic, mul_le_mul_iff_left₀ power]
  · have above := dyadic_lt_of_exponent_lt second first greater
    exact iff_of_false above.not_ge (by omega)

/-- Taken apart as a number is kept. -/
def IsCanonical : UnpackedFloat → Prop
  | .finite _ mantissa exponent _ => Canonical mantissa exponent
  | _ => True

theorem isCanonical_unpack (number : Float) : IsCanonical number.toModel.unpack := by
  cases unpacked : number.toModel.unpack with
  | finite sign mantissa exponent positive => exact (ofFloat_of_finite unpacked).2.2
  | _ => trivial

theorem notAbove_iff_value {left right : UnpackedFloat} (leftCanonical : IsCanonical left)
    (rightCanonical : IsCanonical right) :
    (∃ lower upper, Rank.of? left = some lower ∧ Rank.of? right = some upper ∧
        lower.NotAbove upper) ↔
      ∃ lower upper, unpackedValue? left = some lower ∧ unpackedValue? right = some upper ∧
        lower ≤ upper := by
  rcases left with (_ | _) | _ | _ | ⟨_ | _, leftMantissa, leftExponent, leftPositive⟩ <;>
    rcases right with (_ | _) | _ | _ | ⟨_ | _, rightMantissa, rightExponent, rightPositive⟩ <;>
      dsimp only [Rank.of?, unpackedValue?] <;> simp [Rank.NotAbove]
  case zero.finite.negative => exact dyadic_pos rightPositive _
  case zero.finite.positive => exact (dyadic_pos rightPositive _).le
  case finite.negative.zero => exact (dyadic_pos leftPositive _).le
  case finite.negative.finite.negative =>
    rw [dyadic_le_dyadic_iff rightCanonical leftCanonical, eq_comm (a := leftExponent)]
  case finite.negative.finite.positive =>
    have left := dyadic_pos leftPositive leftExponent
    have right := dyadic_pos rightPositive rightExponent
    linarith
  case finite.positive.zero => exact dyadic_pos leftPositive _
  case finite.positive.finite.negative =>
    have left := dyadic_pos leftPositive leftExponent
    have right := dyadic_pos rightPositive rightExponent
    linarith
  case finite.positive.finite.positive =>
    rw [dyadic_le_dyadic_iff leftCanonical rightCanonical]

def value? (number : Float) : Option Extended :=
  unpackedValue? number.toModel.unpack

/-- Numbers stand in the order of their values. -/
theorem le_iff_exists_value {left right : Float} :
    left ≤ right ↔ ∃ lower upper, value? left = some lower ∧ value? right = some upper ∧
      lower ≤ upper := by
  rw [le_iff_exists_rank]
  exact notAbove_iff_value (isCanonical_unpack left) (isCanonical_unpack right)

theorem div_eq_dyadic (mantissa : Nat) (exponent : Int) :
    ((mantissa * 2 ^ exponent.toNat : Nat) : ℚ) / ((2 ^ (-exponent).toNat : Nat) : ℚ) =
      dyadic mantissa exponent := by
  have power : (2 : ℚ) ^ exponent.toNat = 2 ^ exponent * 2 ^ (-exponent).toNat := by
    rw [← zpow_natCast, ← zpow_natCast, ← zpow_add₀ (by norm_num)]
    congr 1
    omega
  have nonzero : (2 : ℚ) ^ (-exponent).toNat ≠ 0 := pow_ne_zero _ (by norm_num)
  push_cast
  rw [power, dyadic, ← mul_assoc, mul_div_assoc, div_self nonzero, mul_one]

theorem fraction_of_ofFloat {number : Float} {mantissa : Nat} {exponent : Int} {narrow : Bool}
    (binary : Binary.ofFloat number = ⟨mantissa, exponent, narrow⟩) :
    fraction number =
      (if isNegative number then -((mantissa * 2 ^ exponent.toNat : Nat) : Int)
        else (mantissa * 2 ^ exponent.toNat : Nat), 2 ^ (-exponent).toNat) := by
  rw [fraction, binary, Binary.scaled]
  simp only [Nat.pow_eq, Int.toNat_zero, Int.neg_zero, Nat.pow_zero, Nat.mul_one]

/-- The fraction of a finite number is its value. -/
theorem value?_of_isFinite {number : Float} (finite : number.isFinite = true) :
    0 < (fraction number).2 ∧
      value? number = some (.ofRat ((fraction number).1 / (fraction number).2)) := by
  have unpackedFinite : number.toModel.unpack.isFinite = true := finite
  rw [value?]
  cases unpacked : number.toModel.unpack with
  | notANumber => rw [unpacked] at unpackedFinite; cases unpackedFinite
  | infinity sign => rw [unpacked] at unpackedFinite; cases unpackedFinite
  | zero sign =>
      rw [fraction_of_ofFloat (ofFloat_of_zero unpacked)]
      refine ⟨Nat.two_pow_pos _, ?_⟩
      simp only [Nat.zero_mul, Nat.cast_zero, Int.neg_zero, ite_self, Int.cast_zero, zero_div]
      rfl
  | finite sign mantissa exponent positive =>
      rcases ofFloat_of_finite unpacked with ⟨binary, sameSign, canonical⟩
      have quotient := div_eq_dyadic mantissa exponent
      subst sameSign
      rw [fraction_of_ofFloat binary]
      refine ⟨Nat.two_pow_pos _, ?_⟩
      cases negative : isNegative number with
      | false => exact congrArg (some ∘ Extended.ofRat) quotient.symm
      | true =>
          rw [← neg_inj, ← neg_div] at quotient
          exact congrArg (some ∘ Extended.ofRat) (by exact_mod_cast quotient.symm)

theorem value?_eq_none_iff {number : Float} : value? number = none ↔ number.isNaN = true := by
  change unpackedValue? number.toModel.unpack = none ↔ number.toModel.unpack.isNaN = true
  cases number.toModel.unpack with
  | notANumber => exact iff_of_true rfl rfl
  | infinity sign =>
      cases sign <;> exact iff_of_false (Option.some_ne_none _) Bool.false_ne_true
  | zero sign => exact iff_of_false (Option.some_ne_none _) Bool.false_ne_true
  | finite sign mantissa exponent positive =>
      cases sign <;> exact iff_of_false (Option.some_ne_none _) Bool.false_ne_true

theorem value?_of_isInf {number : Float} (infinite : number.isInf = true) :
    value? number = some (if isNegative number then ⊥ else ⊤) := by
  have unpackedInfinite : number.toModel.unpack.isInf = true := infinite
  rw [value?]
  cases unpacked : number.toModel.unpack with
  | infinity sign =>
      rw [← sign_of_infinity unpacked]
      cases isNegative number <;> rfl
  | _ =>
      rw [unpacked] at unpackedInfinite
      cases unpackedInfinite

theorem le_infinity {number : Float} (isNumber : number.isNaN = false) : number ≤ infinity := by
  have valued : value? number ≠ none := by
    rw [ne_eq, value?_eq_none_iff, isNumber]
    exact Bool.false_ne_true
  rcases Option.ne_none_iff_exists'.mp valued with ⟨value, found⟩
  exact le_iff_exists_value.mpr ⟨value, ⊤, found, value?_of_isInf rfl, le_top⟩

theorem isFinite_iff {number : Float} :
    number.isFinite = true ↔ number.isNaN = false ∧ number.isInf = false := by
  change number.toModel.unpack.isFinite = true ↔
    number.toModel.unpack.isNaN = false ∧ number.toModel.unpack.isInf = false
  cases number.toModel.unpack with
  | notANumber => exact iff_of_false Bool.false_ne_true fun both => Bool.false_ne_true both.1.symm
  | infinity sign => exact iff_of_false Bool.false_ne_true fun both => Bool.false_ne_true both.2.symm
  | zero sign => exact iff_of_true rfl ⟨rfl, rfl⟩
  | finite sign mantissa exponent positive => exact iff_of_true rfl ⟨rfl, rfl⟩

end HybridSearch.Number
