import Mathlib.Algebra.Group.Nat.Defs
import HybridSearch.Number.Binary

/-! Which integers lie beyond the largest binary number. An integer is rounded to 53 bits, half to
even, so the first one that is lost lies half a unit below the next power of two. -/

namespace HybridSearch.Number

open Float.Model (Format totalExponent UnpackedFloat)
open Float.Model.UnpackedFloat

/-- The first natural without a binary number near it: half a unit in the last place above the
largest number. -/
def overflowBound : Nat :=
  Nat.pow 2 1024 - Nat.pow 2 970

theorem overflowBound_eq : overflowBound = (2 ^ 54 - 1) * 2 ^ 970 := by
  decide +kernel

/-! ## Rounding to 53 bits -/

theorem mantissa_shiftRight (extended : ExtendedMantissa) (count : Nat) :
    (extended >>> count).mantissa = extended.mantissa / 2 ^ count := by
  induction count with
  | zero => rw [Nat.pow_zero, Nat.div_one]; rfl
  | succ count induction =>
      have step : (extended >>> (count + 1)).mantissa = (extended >>> count).mantissa / 2 := rfl
      rw [step, induction, Nat.div_div_eq_div_mul, Nat.pow_succ]

theorem roundBit_shiftRight (extended : ExtendedMantissa) (count : Nat) :
    (extended >>> (count + 1)).roundBit = (extended.mantissa / 2 ^ count % 2 != 0) := by
  rw [← mantissa_shiftRight]
  rfl

theorem roundedMantissa_bounds (extended : ExtendedMantissa) :
    extended.mantissa ≤ extended.roundedMantissa ∧
      extended.roundedMantissa ≤ extended.mantissa + 1 := by
  rcases extended with ⟨mantissa, _ | _, _ | _⟩ <;>
    simp [ExtendedMantissa.roundedMantissa, ExtendedMantissa.accuracy,
      Accuracy.roundToNearestEven]
  omega

theorem roundedMantissa_of_roundBit_false {extended : ExtendedMantissa}
    (unset : extended.roundBit = false) : extended.roundedMantissa = extended.mantissa := by
  rcases extended with ⟨mantissa, _ | _, _ | _⟩
  · rfl
  · rfl
  · cases unset
  · cases unset

theorem roundedMantissa_of_odd {extended : ExtendedMantissa} (set : extended.roundBit = true)
    (odd : extended.mantissa % 2 = 1) :
    extended.roundedMantissa = extended.mantissa + 1 := by
  rcases extended with ⟨mantissa, _ | _, _ | _⟩
  · cases set
  · cases set
  · exact congrArg (mantissa + ·) odd
  · rfl

/-- Rounding 54 bits to 53 carries over into one more bit only where all of them are set. -/
theorem log2_roundedMantissa {extended : ExtendedMantissa} {bits : Nat}
    (lower : 2 ^ 53 ≤ bits) (upper : bits < 2 ^ 54) (mantissa : extended.mantissa = bits / 2)
    (roundBit : extended.roundBit = (bits % 2 != 0)) :
    extended.roundedMantissa.log2 = if bits = 2 ^ 54 - 1 then 53 else 52 := by
  have bounds := roundedMantissa_bounds extended
  split
  · next full =>
      have set : extended.roundBit = true := by rw [roundBit, full]; rfl
      have carried := roundedMantissa_of_odd set (by omega)
      exact (Nat.log2_eq_iff (by omega)).mpr (by omega)
  · next notFull =>
      refine (Nat.log2_eq_iff (by omega)).mpr ⟨by omega, ?_⟩
      cases set : extended.roundBit with
      | false =>
          have kept := roundedMantissa_of_roundBit_false set
          omega
      | true =>
          rw [set, eq_comm, bne_iff_ne] at roundBit
          omega

/-- Above the least exponent, 53 bits are kept. -/
theorem targetExponent_eq {mantissa : Nat} {exponent : Int}
    (normal : -1074 ≤ mantissa.log2 - 52 + exponent) :
    Format.binary64.targetExponent (totalExponent mantissa exponent) =
      mantissa.log2 - 52 + exponent := by
  have bits : (Format.binary64.mantissaBits : Int) = 53 := rfl
  have least : Format.binary64.minExponent = -1074 := rfl
  rw [Format.targetExponent, totalExponent, bits, least]
  omega

/-- The leading 54 bits of a longer mantissa. -/
theorem leadingBits_bounds {mantissa drop : Nat} (sized : mantissa.log2 = 53 + drop) :
    2 ^ 53 ≤ mantissa / 2 ^ drop ∧ mantissa / 2 ^ drop < 2 ^ 54 := by
  have nonzero : mantissa ≠ 0 := by
    intro zero
    rw [zero, Nat.log2_zero] at sized
    omega
  have bounds := (Nat.log2_eq_iff nonzero).mp sized
  constructor
  · rw [Nat.le_div_iff_mul_le (Nat.two_pow_pos drop), ← Nat.pow_add]
    exact bounds.1
  · rw [Nat.div_lt_iff_lt_mul (Nat.two_pow_pos drop), ← Nat.pow_add]
    exact Nat.lt_of_lt_of_eq bounds.2 (by congr 1; omega)

theorem shiftToTargetExponent_eq {mantissa : Nat} {exponent : Int} (shift : Nat)
    (target : Format.binary64.targetExponent (totalExponent mantissa exponent) =
      exponent + shift) :
    shiftToTargetExponent Format.binary64 mantissa exponent .exact =
      (ExtendedMantissa.ofMantissaAndAccuracy mantissa .exact >>> shift, exponent + shift) := by
  have amount : (exponent + shift - exponent).toNat = shift := by omega
  rw [shiftToTargetExponent, target]
  simp only [shiftToExponent, amount]

/-- Whether rounding carries over into one more bit. -/
def carry (mantissa drop : Nat) : Nat :=
  if mantissa / 2 ^ drop = 2 ^ 54 - 1 then 1 else 0

/-- A mantissa that is too long is rounded by one shift, and a carry needs another one. -/
theorem roundWithAccuracy_eq_finite (sign : Sign) {mantissa drop : Nat}
    (sized : mantissa.log2 = 53 + drop) (exponent : Int) (normal : -1074 ≤ exponent + drop + 1) :
    ∃ rounded positive, roundWithAccuracy Format.binary64 sign mantissa exponent .exact =
      .finite sign rounded (exponent + (drop + 1 : Nat) + carry mantissa drop) positive := by
  have bits := leadingBits_bounds sized
  have first : shiftToTargetExponent Format.binary64 mantissa exponent .exact = _ :=
    shiftToTargetExponent_eq (drop + 1) (by rw [targetExponent_eq (by omega)]; omega)
  generalize shifted :
    ExtendedMantissa.ofMantissaAndAccuracy mantissa .exact >>> (drop + 1) = extended at first
  have kept : extended.mantissa = mantissa / 2 ^ drop / 2 := by
    rw [← shifted, mantissa_shiftRight, Nat.pow_succ, Nat.div_div_eq_div_mul]
    rfl
  have roundBit : extended.roundBit = (mantissa / 2 ^ drop % 2 != 0) := by
    rw [← shifted, roundBit_shiftRight]
    rfl
  have log : extended.roundedMantissa.log2 = 52 + carry mantissa drop := by
    rw [log2_roundedMantissa bits.1 bits.2 kept roundBit, carry]
    split <;> rfl
  have second : shiftToTargetExponent Format.binary64 extended.roundedMantissa
      (exponent + (drop + 1 : Nat)) .exact = _ :=
    shiftToTargetExponent_eq (carry mantissa drop)
      (by rw [targetExponent_eq (by omega)]; omega)
  have positive : 0 < extended.roundedMantissa / 2 ^ carry mantissa drop := by
    have lower := (roundedMantissa_bounds extended).1
    have atMost : carry mantissa drop ≤ 1 := by unfold carry; split <;> omega
    have divisor : 2 ^ carry mantissa drop ≤ 2 ^ 1 := Nat.pow_le_pow_right (by omega) atMost
    exact Nat.div_pos (by omega) (Nat.two_pow_pos _)
  refine ⟨_, positive, ?_⟩
  rw [roundWithAccuracy, first]
  dsimp only
  rw [second]
  dsimp only
  rw [mantissa_shiftRight]
  exact dif_neg (Nat.ne_of_gt positive)

/-! ## Unpacking

What bits are unpacked to is told by the field of the exponent, and at its greatest and its least value
by the field of the mantissa. -/

section Unpacking

variable {bits : BitVec Format.binary64.numBits}

theorem unpack_of_greatest (greatest : unpackExponent bits = -1#11) :
    unpack Format.binary64 bits =
      if unpackMantissa bits = 0#52 then .infinity (Sign.ofBitVec (unpackSign bits))
      else .notANumber :=
  if_pos greatest

theorem unpack_of_zero (least : unpackExponent bits = 0#11) (empty : unpackMantissa bits = 0#52) :
    unpack Format.binary64 bits = .zero (Sign.ofBitVec (unpackSign bits)) :=
  (if_neg (by rw [least]; decide)).trans ((if_pos least).trans (dif_pos empty))

theorem unpack_of_least (least : unpackExponent bits = 0#11)
    (filled : unpackMantissa bits ≠ 0#52) :
    ∃ positive, unpack Format.binary64 bits =
      .finite (Sign.ofBitVec (unpackSign bits)) (unpackMantissa bits).toNat
        ((unpackExponent bits).toNat - (1023 + 52) + 1) positive :=
  ⟨_, (if_neg (by rw [least]; decide)).trans ((if_pos least).trans (dif_neg filled))⟩

theorem unpack_of_between (notGreatest : unpackExponent bits ≠ -1#11)
    (notLeast : unpackExponent bits ≠ 0#11) :
    ∃ positive, unpack Format.binary64 bits =
      .finite (Sign.ofBitVec (unpackSign bits)) (1#1 ++ unpackMantissa bits).toNat
        ((unpackExponent bits).toNat - (1023 + 52)) positive :=
  ⟨_, (if_neg notGreatest).trans (if_neg notLeast)⟩

/-- Below the greatest exponent there are the finite numbers and zero. -/
theorem isFinite_unpack_iff :
    (unpack Format.binary64 bits).isFinite = true ↔ unpackExponent bits ≠ -1#11 := by
  by_cases greatest : unpackExponent bits = -1#11
  · rw [unpack_of_greatest greatest]
    by_cases empty : unpackMantissa bits = 0#52
    · rw [if_pos empty]
      exact iff_of_false Bool.false_ne_true fun different => different greatest
    · rw [if_neg empty]
      exact iff_of_false Bool.false_ne_true fun different => different greatest
  · apply iff_of_true _ greatest
    by_cases least : unpackExponent bits = 0#11
    · by_cases empty : unpackMantissa bits = 0#52
      · rw [unpack_of_zero least empty]
        rfl
      · rcases unpack_of_least least empty with ⟨positive, unpacked⟩
        rw [unpacked]
        rfl
    · rcases unpack_of_between greatest least with ⟨positive, unpacked⟩
      rw [unpacked]
      rfl

end Unpacking

/-! ## Infinity -/

theorem isInf_unpack_iff (bits : BitVec Format.binary64.numBits) :
    (unpack Format.binary64 bits).isInf = true ↔
      unpackExponent bits = -1#11 ∧ unpackMantissa bits = 0#52 := by
  by_cases greatest : unpackExponent bits = -1#11
  · rw [unpack_of_greatest greatest]
    by_cases empty : unpackMantissa bits = 0#52
    · rw [if_pos empty]
      exact iff_of_true rfl ⟨greatest, empty⟩
    · rw [if_neg empty]
      exact iff_of_false Bool.false_ne_true fun both => empty both.2
  · apply iff_of_false _ fun both => greatest both.1
    intro infinite
    have finite := isFinite_unpack_iff.mpr greatest
    cases unpacked : unpack Format.binary64 bits with
    | infinity sign => rw [unpacked] at finite; cases finite
    | _ => rw [unpacked] at infinite; cases infinite

theorem exponentField_ne {exponent : Int} (upper : exponent < 972) :
    BitVec.ofNat 11 (exponent + 1023 + 52).toNat ≠ -1#11 := by
  intro equal
  have sameValue := congrArg BitVec.toNat equal
  rw [BitVec.toNat_ofNat] at sameValue
  change _ % 2048 = 2047 at sameValue
  omega

/-- A rounded number is packed as infinity when its exponent is too great for the eleven bits. -/
theorem isInf_unpack_pack_iff (sign : Sign) {mantissa : Nat} {exponent : Int}
    (positive : 0 < mantissa) :
    (unpack Format.binary64
      (pack Format.binary64 (.finite sign mantissa exponent positive))).isInf = true ↔
        972 ≤ exponent := by
  have biased : 2 ^ Format.binary64.exponentBits ≤ (exponent + Format.binary64.exponentBias +
      Format.binary64.mantissaBitsWithoutImplicit).toNat + 1 ↔ 972 ≤ exponent := by
    change 2048 ≤ (exponent + 1023 + 52).toNat + 1 ↔ _
    omega
  rw [isInf_unpack_iff]
  delta pack
  simp only [biased]
  split
  · next great => simp [great, packedInfinity]
  · next small =>
    split
    · rw [unpackExponent_packComponents]
      exact iff_of_false (fun both => exponentField_ne (by omega) both.1) small
    · rw [unpackExponent_packComponents]
      exact iff_of_false (fun both => absurd both.1 (by decide)) small

theorem unpack_eq_notANumber_iff (bits : BitVec Format.binary64.numBits) :
    unpack Format.binary64 bits = .notANumber ↔
      unpackExponent bits = -1#11 ∧ unpackMantissa bits ≠ 0#52 := by
  by_cases greatest : unpackExponent bits = -1#11
  · rw [unpack_of_greatest greatest]
    by_cases empty : unpackMantissa bits = 0#52
    · rw [if_pos empty]
      exact iff_of_false nofun fun both => both.2 empty
    · rw [if_neg empty]
      exact iff_of_true rfl ⟨greatest, empty⟩
  · apply iff_of_false _ fun both => greatest both.1
    intro notANumber
    have finite := isFinite_unpack_iff.mpr greatest
    rw [notANumber] at finite
    cases finite

/-- What is packed as a number comes back as one, be it an infinite one. -/
theorem unpack_pack_ne_notANumber {number : UnpackedFloat} (isNumber : number ≠ .notANumber) :
    unpack Format.binary64 (pack Format.binary64 number) ≠ .notANumber := by
  rw [Ne, unpack_eq_notANumber_iff]
  cases number with
  | notANumber => exact absurd rfl isNumber
  | infinity sign =>
      delta pack packedInfinity
      simp
  | zero sign =>
      delta pack packedZero
      simp
  | finite sign mantissa exponent positive =>
      delta pack
      dsimp only
      split
      · simp [packedInfinity]
      · next small =>
        have upper : exponent < 972 := by
          change ¬2048 ≤ (exponent + 1023 + 52).toNat + 1 at small
          omega
        split
        · rw [unpackExponent_packComponents]
          exact fun both => exponentField_ne upper both.1
        · rw [unpackExponent_packComponents]
          exact fun both => absurd both.1 (by decide)

/-! ## Large and small naturals -/

theorem log2_mul_two_pow {value : Nat} (nonzero : value ≠ 0) (shift : Nat) :
    (value * 2 ^ shift).log2 = value.log2 + shift := by
  have bounds := (Nat.log2_eq_iff nonzero).mp rfl
  have scale := Nat.two_pow_pos shift
  refine (Nat.log2_eq_iff (Nat.mul_ne_zero nonzero (Nat.ne_of_gt scale))).mpr ⟨?_, ?_⟩
  · rw [Nat.pow_add]
    exact Nat.mul_le_mul_right _ bounds.1
  · rw [Nat.add_right_comm, Nat.pow_add]
    exact Nat.mul_lt_mul_of_pos_right bounds.2 scale

/-- A natural beyond 53 bits is given 53 more, which the rounding then drops again. -/
theorem ofScientific_eq_round {value : Nat} (large : 2 ^ 53 ≤ value) :
    UnpackedFloat.ofScientific Format.binary64 value 0 =
      roundWithAccuracy Format.binary64 .positive (value * 2 ^ 53) (-53) .exact := by
  have nonzero : value ≠ 0 := by omega
  have notTiny : ¬(0 : Int) < -((2 ^ Format.binary64.exponentBits : Int) + value.log2) := by
    change ¬(0 : Int) < -(2048 + value.log2)
    omega
  have power : 10 ^ (0 : Int).toNat = 1 := rfl
  rw [UnpackedFloat.ofScientific, dif_neg nonzero, if_neg (by decide), if_neg notTiny,
    if_pos (by decide)]
  dsimp only [UnpackedFloat.mul]
  rw [Nat.shiftLeft_eq, power, Nat.mul_one]
  rfl

/-- A rounded natural has a certain size by itself, or by a carry from one bit less. -/
theorem sized_with_carry_iff {value : Nat} (nonzero : value ≠ 0) (unit : Nat) :
    54 + unit ≤ value.log2 + carry (value * 2 ^ 53) value.log2 ↔
      (2 ^ 54 - 1) * 2 ^ unit ≤ value := by
  have scale := Nat.two_pow_pos unit
  have carryAtMost : carry (value * 2 ^ 53) value.log2 ≤ 1 := by unfold carry; split <;> omega
  rw [← Nat.le_div_iff_mul_le scale]
  rcases Nat.lt_trichotomy value.log2 (53 + unit) with short | exact | long
  · have below : value / 2 ^ unit < 2 ^ 53 := by
      rw [Nat.div_lt_iff_lt_mul scale, ← Nat.pow_add]
      exact (Nat.log2_lt nonzero).mp short
    omega
  · have bounds := leadingBits_bounds exact
    have leading : value * 2 ^ 53 / 2 ^ value.log2 = value / 2 ^ unit := by
      rw [exact, Nat.add_comm 53 unit, Nat.pow_add, Nat.mul_div_mul_right _ _ (Nat.two_pow_pos 53)]
    rw [carry, leading]
    split <;> omega
  · have above : 2 ^ 54 ≤ value / 2 ^ unit := by
      rw [Nat.le_div_iff_mul_le scale, ← Nat.pow_add]
      exact (Nat.le_log2 nonzero).mp (by omega)
    omega

/-- A natural is rounded to a number, and the exponent shows whether it can be packed as a finite
one. -/
def RoundsTo (value : Nat) (number : UnpackedFloat) : Prop :=
  ∃ rounded sign mantissa exponent positive, rounded = .finite sign mantissa exponent positive ∧
    number = unpack Format.binary64 (pack Format.binary64 rounded) ∧
      (972 ≤ exponent ↔ overflowBound ≤ value)

theorem roundsTo_ofScientific_of_large {value : Nat} (large : 2 ^ 53 ≤ value) :
    RoundsTo value (Float.ofScientific value false 0).toModel.unpack := by
  have nonzero : value ≠ 0 := by omega
  have sized : (value * 2 ^ 53).log2 = 53 + value.log2 := by
    rw [log2_mul_two_pow nonzero, Nat.add_comm]
  rcases roundWithAccuracy_eq_finite .positive sized (-53) (by omega) with
    ⟨rounded, positive, equal⟩
  refine ⟨_, _, _, _, _, equal, ?_, ?_⟩
  · rw [Float.ofScientific, dif_neg (by omega), ← ofScientific_eq_round large]
    rfl
  · rw [overflowBound_eq, ← sized_with_carry_iff nonzero]
    omega

theorem shiftRight_exact (mantissa shift : Nat) :
    ExtendedMantissa.ofMantissaAndAccuracy (mantissa * 2 ^ shift) .exact >>> shift =
      .ofMantissaAndAccuracy mantissa .exact := by
  induction shift generalizing mantissa with
  | zero => rw [Nat.pow_zero, Nat.mul_one]; rfl
  | succ shift induction =>
      have split : mantissa * 2 ^ (shift + 1) = mantissa * 2 * 2 ^ shift := by
        rw [Nat.pow_succ, Nat.mul_assoc, Nat.mul_comm 2]
      have step (extended : ExtendedMantissa) :
          extended >>> (shift + 1) = (extended >>> shift).shiftRightOne := rfl
      rw [split, step, induction]
      simp [ExtendedMantissa.ofMantissaAndAccuracy, ExtendedMantissa.shiftRightOne]

/-- A mantissa of 53 bits, and zeros behind them, needs no rounding. -/
theorem roundWithAccuracy_exact (sign : Sign) {mantissa : Nat} (sized : mantissa.log2 = 52)
    (positive : 0 < mantissa) (shift : Nat) {exponent : Int}
    (normal : -1074 ≤ exponent + shift) :
    roundWithAccuracy Format.binary64 sign (mantissa * 2 ^ shift) exponent .exact =
      .finite sign mantissa (exponent + shift) positive := by
  have long : (mantissa * 2 ^ shift).log2 = 52 + shift := by
    rw [log2_mul_two_pow (by omega), sized]
  have first : shiftToTargetExponent Format.binary64 (mantissa * 2 ^ shift) exponent .exact = _ :=
    shiftToTargetExponent_eq shift (by rw [targetExponent_eq (by omega)]; omega)
  have second : shiftToTargetExponent Format.binary64 mantissa (exponent + shift) .exact =
      (.ofMantissaAndAccuracy mantissa .exact, exponent + shift) :=
    (shiftToTargetExponent_eq 0 (by rw [targetExponent_eq (by omega)]; omega)).trans
      (congrArg _ (Int.add_zero _))
  have kept : (ExtendedMantissa.ofMantissaAndAccuracy mantissa .exact).roundedMantissa =
      mantissa := rfl
  rw [roundWithAccuracy, first, shiftRight_exact]
  dsimp only
  rw [kept, second]
  exact dif_neg (Nat.ne_of_gt positive)

theorem log2_filled {value : Nat} (positive : 0 < value) (small : value.log2 ≤ 52) :
    (value * 2 ^ (52 - value.log2)).log2 = 52 := by
  rw [log2_mul_two_pow (by omega)]
  omega

theorem filled_pos {value : Nat} (positive : 0 < value) : 0 < value * 2 ^ (52 - value.log2) :=
  Nat.mul_pos positive (Nat.two_pow_pos _)

/-- A natural of up to 53 bits is filled up with zeros behind, or loses those that are too many. -/
theorem round_eq_finite {value : Nat} (positive : 0 < value) (small : value.log2 ≤ 52)
    (zeros : Nat) :
    UnpackedFloat.round Format.binary64 .positive (value * 2 ^ zeros) (-zeros) =
      .finite .positive (value * 2 ^ (52 - value.log2)) (value.log2 - 52) (filled_pos positive) := by
  have sized := log2_filled positive small
  have target : Format.binary64.targetExponent (totalExponent (value * 2 ^ zeros) (-zeros)) =
      value.log2 - 52 := by
    rw [targetExponent_eq] <;> rw [log2_mul_two_pow (by omega)] <;> omega
  rw [UnpackedFloat.round, target]
  dsimp only [decreaseExponent]
  rw [Nat.shiftLeft_eq]
  rcases Nat.le_total (52 - value.log2) zeros with many | few
  · have amount : (-(zeros : Int) - (value.log2 - 52)).toNat = 0 := by omega
    rcases Nat.exists_eq_add_of_le many with ⟨surplus, equal⟩
    have digits : value * 2 ^ zeros * 2 ^ 0 = value * 2 ^ (52 - value.log2) * 2 ^ surplus := by
      rw [equal, Nat.pow_add, Nat.pow_zero, Nat.mul_one, Nat.mul_assoc]
    rw [amount, digits, roundWithAccuracy_exact .positive sized (filled_pos positive) surplus]
    · congr 1
      omega
    · omega
  · have amount : (-(zeros : Int) - (value.log2 - 52)).toNat = 52 - value.log2 - zeros := by omega
    have digits : value * 2 ^ zeros * 2 ^ (52 - value.log2 - zeros) =
        value * 2 ^ (52 - value.log2) * 2 ^ 0 := by
      rw [Nat.mul_assoc, ← Nat.pow_add, Nat.pow_zero, Nat.mul_one, Nat.add_sub_cancel' few]
    rw [amount, digits, roundWithAccuracy_exact .positive sized (filled_pos positive) 0]
    · congr 1
      omega
    · omega

theorem unpackSign_packComponents {spec : Format} (sign : Sign) (exponent : BitVec spec.exponentBits)
    (mantissa : BitVec spec.mantissaBitsWithoutImplicit) :
    unpackSign (packComponents spec sign exponent mantissa) = sign.toBitVec := by
  ext position inside
  have least : position = 0 := by omega
  delta unpackSign
  simp [packComponents, BitVec.getLsbD_append, BitVec.getElem_append, least]

/-- A packed number of 53 bits comes back. -/
theorem unpack_pack_finite (sign : Sign) {mantissa : Nat} (positive : 0 < mantissa)
    (sized : mantissa.log2 = 52) {exponent : Int} (lower : -1074 ≤ exponent)
    (upper : exponent < 972) :
    unpack Format.binary64 (pack Format.binary64 (.finite sign mantissa exponent positive)) =
      .finite sign mantissa exponent positive := by
  have field : (BitVec.ofNat 11 (exponent + 1023 + 52).toNat).toNat = (exponent + 1075).toNat := by
    rw [BitVec.toNat_ofNat]
    omega
  have packed : pack Format.binary64 (.finite sign mantissa exponent positive) =
      packComponents Format.binary64 sign (BitVec.ofNat 11 (exponent + 1023 + 52).toNat)
        (BitVec.ofNat 52 mantissa) := by
    have small : ¬2 ^ Format.binary64.exponentBits ≤ (exponent + Format.binary64.exponentBias +
        Format.binary64.mantissaBitsWithoutImplicit).toNat + 1 := by
      change ¬2048 ≤ (exponent + 1023 + 52).toNat + 1
      omega
    delta pack
    dsimp only
    rw [if_neg small]
    exact if_pos (by rw [sized]; rfl)
  rw [packed]
  have notGreatest : BitVec.ofNat 11 (exponent + 1023 + 52).toNat ≠ -1#11 := by
    intro equal
    rw [equal] at field
    change 2047 = _ at field
    omega
  have notLeast : BitVec.ofNat 11 (exponent + 1023 + 52).toNat ≠ 0#11 := by
    intro equal
    rw [equal] at field
    change 0 = _ at field
    omega
  have same : ((BitVec.ofNat 11 (exponent + 1023 + 52).toNat).toNat : Int) -
      (Format.binary64.exponentBias + (52 : Nat)) = exponent := by
    rw [field]
    change _ - (1023 + 52) = exponent
    omega
  have bounds := (Nat.log2_eq_iff (by omega)).mp sized
  have leading : (1#1 ++ BitVec.ofNat 52 mantissa).toNat = mantissa := by
    rw [BitVec.toNat_append, BitVec.toNat_ofNat, Nat.shiftLeft_eq]
    refine (Nat.two_pow_add_eq_or_of_lt (Nat.mod_lt _ (Nat.two_pow_pos 52)) 1).symm.trans ?_
    omega
  have sameSign : Sign.ofBitVec sign.toBitVec = sign := by cases sign <;> rfl
  rcases unpack_of_between
    (fun greatest => notGreatest (unpackExponent_packComponents.symm.trans greatest))
    (fun least => notLeast (unpackExponent_packComponents.symm.trans least)) with ⟨_, unpacked⟩
  rw [unpacked]
  congr 1
  · rw [unpackSign_packComponents, sameSign]
  · rw [unpackMantissa_packComponents, leading]
  · rw [unpackExponent_packComponents]
    exact same

/-- The natural as the number that it is. -/
theorem toFloat_eq_round {value : Nat} (positive : 0 < value) (small : value < 2 ^ 53) :
    value.toUInt64.toFloat.toModel =
      .pack (UnpackedFloat.round Format.binary64 .positive value 0) := by
  have word : value.toUInt64.toNat = value := by
    rw [Nat.toUInt64_eq, UInt64.toNat_ofNat']
    omega
  have ordered : compare (value : Int) 0 = .gt := by
    rw [Int.compare_eq_gt]
    omega
  change Float.Model.pack
    (UnpackedFloat.normalize Format.binary64 value.toUInt64.toNat 0 .positive) = _
  rw [word, UnpackedFloat.normalize, ordered]
  rfl

/-- Naturals of up to 53 bits are numbers themselves, and multiplying by one keeps them. -/
theorem unpack_ofScientific {value : Nat} (positive : 0 < value) (small : value < 2 ^ 53) :
    (Float.ofScientific value false 0).toModel.unpack =
      .finite .positive (value * 2 ^ (52 - value.log2)) (value.log2 - 52)
        (filled_pos positive) := by
  have short : value.log2 ≤ 52 := Nat.le_of_lt_succ ((Nat.log2_lt (by omega)).mpr small)
  have sized := log2_filled positive short
  have one : (Float.ofBits 0x3FF0000000000000).toModel.unpack =
      .finite .positive (2 ^ 52) (-52) (Nat.two_pow_pos 52) := by rfl
  have whole := round_eq_finite positive short 0
  rw [Nat.pow_zero, Nat.mul_one] at whole
  have factor : value.toUInt64.toFloat.toModel.unpack = .finite .positive
      (value * 2 ^ (52 - value.log2)) (value.log2 - 52) (filled_pos positive) := by
    rw [toFloat_eq_round positive small]
    refine (congrArg (unpack Format.binary64 ∘ pack Format.binary64) whole).trans ?_
    exact unpack_pack_finite .positive _ sized (by omega) (by omega)
  have product : (Float.ofScientific value false 0).toModel.unpack = unpack Format.binary64
      (pack Format.binary64 (UnpackedFloat.mul Format.binary64 value.toUInt64.toFloat.toModel.unpack
        (Float.ofBits 0x3FF0000000000000).toModel.unpack)) := by
    rw [Float.ofScientific, dif_pos ⟨small, by decide⟩]
    rfl
  have exact := roundWithAccuracy_exact .positive sized (filled_pos positive) 52
    (show -1074 ≤ (value.log2 : Int) - 52 + -52 + (52 : Nat) by omega)
  rw [product, one, factor]
  refine (congrArg (unpack Format.binary64 ∘ pack Format.binary64) exact).trans ?_
  refine (unpack_pack_finite .positive _ sized (by omega) (by omega)).trans ?_
  congr 1
  omega

theorem roundsTo_ofScientific_of_small {value : Nat} (positive : 0 < value)
    (small : value < 2 ^ 53) :
    RoundsTo value (Float.ofScientific value false 0).toModel.unpack := by
  have short : value.log2 ≤ 52 := Nat.le_of_lt_succ ((Nat.log2_lt (by omega)).mpr small)
  have beyond : 2 ^ 53 ≤ overflowBound := by decide +kernel
  rw [unpack_ofScientific positive small]
  refine ⟨_, .positive, _, value.log2 - 52, filled_pos positive, rfl, ?_,
    iff_of_false (by omega) (by omega)⟩
  exact (unpack_pack_finite .positive _ (log2_filled positive short) (by omega) (by omega)).symm

theorem roundsTo_ofScientific {value : Nat} (positive : 0 < value) :
    RoundsTo value (Float.ofScientific value false 0).toModel.unpack := by
  rcases Nat.lt_or_ge value (2 ^ 53) with small | large
  · exact roundsTo_ofScientific_of_small positive small
  · exact roundsTo_ofScientific_of_large large

theorem isInf_ofScientific_iff (value : Nat) :
    (Float.ofScientific value false 0).isInf = true ↔ overflowBound ≤ value := by
  rcases Nat.eq_zero_or_pos value with rfl | positive
  · decide +kernel
  · rcases roundsTo_ofScientific positive with
      ⟨_, sign, _, _, mantissaPositive, rfl, rounded, bound⟩
    rw [← bound, ← isInf_unpack_pack_iff sign mantissaPositive, ← rounded]
    rfl

/-- An integer has a number near it unless its absolute value reaches the bound. -/
theorem ofInteger?_eq_none_iff (integer : Int) :
    ofInteger? integer = none ↔ overflowBound ≤ integer.natAbs := by
  rw [← isInf_ofScientific_iff, ofInteger?]
  split
  · next infinite => exact iff_of_true rfl infinite
  · next finite => exact iff_of_false (by simp) finite

theorem isNumber_ofScientific (value : Nat) :
    (Float.ofScientific value false 0).toModel.unpack ≠ .notANumber := by
  rcases Nat.eq_zero_or_pos value with rfl | positive
  · have zero : (Float.ofScientific 0 false 0).toModel.unpack = .zero .positive := by rfl
    rw [zero]
    nofun
  · rcases roundsTo_ofScientific positive with ⟨_, _, _, _, _, rfl, rounded, _⟩
    rw [rounded]
    exact unpack_pack_ne_notANumber nofun

/-- What an integer has near it is a number. -/
theorem isNumber_of_ofInteger? {integer : Int} {number : Float}
    (near : ofInteger? integer = some number) : number.toModel.unpack ≠ .notANumber := by
  have magnitude := isNumber_ofScientific integer.natAbs
  rw [ofInteger?] at near
  split at near
  · cases near
  · cases near
    split
    · refine unpack_pack_ne_notANumber ?_
      revert magnitude
      cases (Float.ofScientific integer.natAbs false 0).toModel.unpack with
      | notANumber => exact fun isNumber => absurd rfl isNumber
      | _ => exact fun _ => nofun
    · exact magnitude

end HybridSearch.Number
