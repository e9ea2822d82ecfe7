import Mathlib.Algebra.Order.Floor.Div
import Mathlib.Data.Rat.Floor
import Mathlib.Tactic.Ring
import HybridSearch.Number.Rounding
import HybridSearch.Proofs.Number.Overflow

/-! The quotient of two naturals as a binary number of 53 bits. Rounding may take a quotient back to the
whole number below it, past its ceiling, down to zero, or beyond the largest number; each of these is
said exactly by the two naturals. -/

namespace HybridSearch.Number

variable {numerator denominator : Nat}

/-! ## Rounding up -/

theorem ceilDiv_le_iff (positive : 0 < denominator) {bound : Nat} :
    ceilDiv numerator denominator ≤ bound ↔ numerator ≤ denominator * bound := by
  rw [ceilDiv, ← Nat.ceilDiv_eq_add_pred_div, ceilDiv_le_iff_le_mul positive]

theorem lt_ceilDiv_iff (positive : 0 < denominator) {bound : Nat} :
    bound < ceilDiv numerator denominator ↔ denominator * bound < numerator := by
  rw [← Nat.not_le, ceilDiv_le_iff positive, Nat.not_le]

theorem ceilDiv_eq_succ_iff (positive : 0 < denominator) {below : Nat} :
    ceilDiv numerator denominator = below + 1 ↔
      denominator * below < numerator ∧ numerator ≤ denominator * (below + 1) := by
  rw [← lt_ceilDiv_iff positive, ← ceilDiv_le_iff positive]
  omega

theorem ceilDiv_mul (positive : 0 < denominator) (whole : Nat) :
    ceilDiv (whole * denominator) denominator = whole := by
  apply eq_of_forall_ge_iff
  intro bound
  rw [ceilDiv_le_iff positive, Nat.mul_comm, Nat.mul_le_mul_left_iff positive]

theorem ceil_div_eq (positive : 0 < denominator) :
    ⌈(numerator : ℚ) / denominator⌉₊ = ceilDiv numerator denominator := by
  apply eq_of_forall_ge_iff
  intro bound
  rw [ceilDiv_le_iff positive, Nat.ceil_le, div_le_iff₀ (Nat.cast_pos.mpr positive), mul_comm]
  norm_cast

/-! ## Rounding to the nearest -/

/-- What a quotient is rounded to lies above a natural when the quotient is more than half a step above
it; half a step is enough where the natural is odd. -/
theorem lt_roundHalfEven_iff (positive : 0 < denominator) {bound : Nat} :
    bound < roundHalfEven numerator denominator ↔
      2 * (bound * denominator) + denominator < 2 * numerator ∨
        2 * (bound * denominator) + denominator = 2 * numerator ∧ bound % 2 = 1 := by
  have whole := Nat.div_add_mod' numerator denominator
  have rest := Nat.mod_lt numerator positive
  have near : numerator / denominator ≤ roundHalfEven numerator denominator ∧
      roundHalfEven numerator denominator ≤ numerator / denominator + 1 := by
    simp only [roundHalfEven]
    repeat' split
    all_goals omega
  rcases Nat.lt_trichotomy bound (numerator / denominator) with below | rfl | above
  · have step := Nat.mul_le_mul_right denominator (Nat.succ_le_of_lt below)
    rw [Nat.succ_mul] at step
    exact iff_of_true (by omega) (by omega)
  · simp only [roundHalfEven]
    repeat' split
    all_goals omega
  · have step := Nat.mul_le_mul_right denominator (Nat.succ_le_of_lt above)
    rw [Nat.succ_mul] at step
    exact iff_of_false (by omega) (by omega)

theorem roundHalfEven_le (positive : 0 < denominator) {bound : Nat}
    (above : 2 * numerator < 2 * (bound * denominator) + denominator) :
    roundHalfEven numerator denominator ≤ bound := by
  by_contra beyond
  have far := (lt_roundHalfEven_iff positive).mp (Nat.lt_of_not_le beyond)
  omega

theorem le_roundHalfEven (positive : 0 < denominator) {bound : Nat}
    (below : 2 * (bound * denominator) < 2 * numerator + denominator) :
    bound ≤ roundHalfEven numerator denominator := by
  cases bound with
  | zero => exact Nat.zero_le _
  | succ bound =>
      apply (lt_roundHalfEven_iff positive).mpr
      rw [Nat.add_mul, Nat.one_mul] at below
      omega

/-- A quotient that is less than half a step away from a natural is rounded to it. -/
theorem roundHalfEven_eq_of_near (positive : 0 < denominator) {nearest : Nat}
    (below : 2 * (nearest * denominator) < 2 * numerator + denominator)
    (above : 2 * numerator < 2 * (nearest * denominator) + denominator) :
    roundHalfEven numerator denominator = nearest :=
  Nat.le_antisymm (roundHalfEven_le positive above) (le_roundHalfEven positive below)

/-! ## The grid of a quotient -/

namespace Quotient

/-- The bits of a quotient before the point, or one bit less. -/
theorem bits_bounds (numeratorPos : 0 < numerator) (denominatorPos : 0 < denominator) (up down : Nat)
    (bits : numerator.log2 + down = denominator.log2 + up) :
    denominator * 2 ^ up < 2 * (numerator * 2 ^ down) ∧
      numerator * 2 ^ down < 2 * (denominator * 2 ^ up) := by
  have numeratorBits := (Nat.log2_eq_iff (Nat.ne_of_gt numeratorPos)).mp rfl
  have denominatorBits := (Nat.log2_eq_iff (Nat.ne_of_gt denominatorPos)).mp rfl
  constructor
  · calc denominator * 2 ^ up < 2 ^ (denominator.log2 + 1) * 2 ^ up :=
          Nat.mul_lt_mul_of_pos_right denominatorBits.2 (Nat.two_pow_pos up)
      _ = 2 * (2 ^ numerator.log2 * 2 ^ down) := by
          rw [← Nat.pow_add, ← Nat.pow_add, bits, ← Nat.pow_succ']
          congr 1
          omega
      _ ≤ 2 * (numerator * 2 ^ down) :=
          Nat.mul_le_mul_left 2 (Nat.mul_le_mul_right _ numeratorBits.1)
  · calc numerator * 2 ^ down < 2 ^ (numerator.log2 + 1) * 2 ^ down :=
          Nat.mul_lt_mul_of_pos_right numeratorBits.2 (Nat.two_pow_pos down)
      _ = 2 * (2 ^ denominator.log2 * 2 ^ up) := by
          rw [← Nat.pow_add, ← Nat.pow_add, ← bits, ← Nat.pow_succ']
          congr 1
          omega
      _ ≤ 2 * (denominator * 2 ^ up) :=
          Nat.mul_le_mul_left 2 (Nat.mul_le_mul_right _ denominatorBits.1)

theorem log2_div_eq {bits : Nat} (positive : 0 < denominator)
    (lower : denominator * 2 ^ bits ≤ numerator) (upper : numerator < denominator * 2 ^ (bits + 1)) :
    (numerator / denominator).log2 = bits := by
  have lowerWhole : 2 ^ bits ≤ numerator / denominator := by
    rwa [Nat.le_div_iff_mul_le positive, Nat.mul_comm]
  have upperWhole : numerator / denominator < 2 ^ (bits + 1) := by
    rwa [Nat.div_lt_iff_lt_mul positive, Nat.mul_comm]
  have nonzero : numerator / denominator ≠ 0 :=
    Nat.ne_of_gt (Nat.lt_of_lt_of_le (Nat.two_pow_pos bits) lowerWhole)
  exact (Nat.log2_eq_iff nonzero).mpr ⟨lowerWhole, upperWhole⟩

/-- A quotient from one on has as many bits before the point as the whole number below it. -/
theorem scale_of_whole (positive : 0 < denominator) (whole : denominator ≤ numerator) :
    scale numerator denominator = (numerator / denominator).log2 - 52 := by
  have longer : denominator.log2 ≤ numerator.log2 := by
    apply (Nat.le_log2 (by omega)).mpr
    exact Nat.le_trans (Nat.log2_self_le (Nat.ne_of_gt positive)) whole
  rcases Nat.exists_eq_add_of_le longer with ⟨bits, sized⟩
  have bounds := bits_bounds (Nat.lt_of_lt_of_le positive whole) positive bits 0 (by omega)
  have up : ((numerator.log2 : Int) - denominator.log2).toNat = bits := by omega
  have down : (-((numerator.log2 : Int) - denominator.log2)).toNat = 0 := by omega
  simp only [scale, up, down, Nat.pow_eq, Nat.pow_zero, Nat.mul_one, decide_eq_true_eq] at bounds ⊢
  split
  · next fits =>
    cases bits with
    | zero =>
        rw [Nat.pow_zero, Nat.mul_one] at fits
        omega
    | succ bits =>
        have exact : (numerator / denominator).log2 = bits := by
          apply log2_div_eq positive _ fits
          rw [Nat.pow_succ] at bounds
          lia
        omega
  · next exceeds =>
    have exact : (numerator / denominator).log2 = bits := by
      apply log2_div_eq positive (Nat.le_of_not_lt exceeds)
      rw [Nat.pow_succ]
      lia
    omega

/-- Below one, a quotient has all its bits unless it lies where binary numbers are as close together as
they can be. -/
theorem exists_places_of_fraction (positive : 0 < numerator) (fraction : numerator < denominator) :
    ∃ places : Nat, scale numerator denominator = -places ∧ places ≤ 1074 ∧
      numerator * 2 ^ places < 2 ^ 54 * denominator ∧
      (places ≠ 1074 → denominator ≤ numerator * 2 ^ places) := by
  have shorter : numerator.log2 ≤ denominator.log2 := by
    apply (Nat.le_log2 (by omega)).mpr
    exact Nat.le_trans (Nat.log2_self_le (Nat.ne_of_gt positive)) (Nat.le_of_lt fraction)
  rcases Nat.exists_eq_add_of_le shorter with ⟨bits, sized⟩
  have bounds := bits_bounds positive (Nat.lt_trans positive fraction) 0 bits (by omega)
  rw [Nat.pow_zero, Nat.mul_one] at bounds
  have scaled : ∃ places : Nat, scale numerator denominator = -places ∧ places ≤ 1074 ∧
      places ≤ bits + 53 ∧ (places ≠ 1074 → bits + 1 ≤ places) := by
    refine ⟨(-scale numerator denominator).toNat, ?_⟩
    simp only [scale]
    split <;> omega
  rcases scaled with ⟨places, equal, most, fewer, more⟩
  refine ⟨places, equal, most, ?_, fun notLeast => ?_⟩
  · calc numerator * 2 ^ places ≤ numerator * 2 ^ (bits + 53) :=
          Nat.mul_le_mul_left _ (Nat.pow_le_pow_right (by decide) fewer)
      _ = 2 ^ 53 * (numerator * 2 ^ bits) := by rw [Nat.pow_add]; ring
      _ < 2 ^ 54 * denominator := by omega
  · calc denominator ≤ numerator * 2 ^ (bits + 1) := by rw [Nat.pow_succ]; lia
      _ ≤ numerator * 2 ^ places :=
        Nat.mul_le_mul_left _ (Nat.pow_le_pow_right (by decide) (more notLeast))

/-- A quotient on a grid with places behind the point. -/
theorem of_fine {places : Nat} (scaled : scale numerator denominator = -places) :
    of numerator denominator = ⟨roundHalfEven (numerator * 2 ^ places) denominator, -places⟩ := by
  have up : (-(places : Int)).toNat = 0 := by omega
  have down : (- -(places : Int)).toNat = places := by omega
  simp only [of, scaled, up, down, Nat.pow_eq, Nat.pow_zero, Nat.mul_one]

/-- A quotient on a grid of whole numbers. -/
theorem of_coarse {unit : Nat} (scaled : scale numerator denominator = unit) :
    of numerator denominator = ⟨roundHalfEven numerator (denominator * 2 ^ unit), unit⟩ := by
  have up : (unit : Int).toNat = unit := by omega
  have down : (-(unit : Int)).toNat = 0 := by omega
  simp only [of, scaled, up, down, Nat.pow_eq, Nat.pow_zero, Nat.mul_one]

/-! ## Overflow -/

theorem overflows_of_fine {places : Nat} (positive : 0 < denominator)
    (scaled : scale numerator denominator = -places)
    (short : numerator * 2 ^ places < 2 ^ 54 * denominator) :
    (of numerator denominator).overflows = false := by
  have bounded : roundHalfEven (numerator * 2 ^ places) denominator ≤ 2 ^ 54 :=
    roundHalfEven_le positive (by omega)
  have unscaled : (-(places : Int)).toNat = 0 := by omega
  have beyond : 2 ^ 54 < Nat.pow 2 1024 := by decide +kernel
  rw [of_fine scaled]
  simp only [overflows, unscaled, Nat.pow_eq, Nat.pow_zero, Nat.mul_one] at beyond ⊢
  rw [decide_eq_false_iff_not]
  omega

/-- A rounded quotient of 53 bits reaches a power of two exactly when it lies no more than half a unit in
the last place below it. -/
theorem reaches_iff_of_coarse {unit : Nat} (positive : 0 < denominator)
    (lower : denominator * 2 ^ (52 + unit) ≤ numerator)
    (upper : numerator < denominator * 2 ^ (53 + unit)) (base : Nat) :
    2 ^ 54 * 2 ^ base ≤ roundHalfEven numerator (denominator * 2 ^ unit) * 2 ^ unit ↔
      (2 ^ 54 - 1) * 2 ^ base * denominator ≤ numerator := by
  have step : 0 < denominator * 2 ^ unit := Nat.mul_pos positive (Nat.two_pow_pos unit)
  rw [Nat.pow_add] at lower upper
  have atLeast : 2 ^ 52 ≤ roundHalfEven numerator (denominator * 2 ^ unit) := by
    apply le_roundHalfEven step
    lia
  have atMost : roundHalfEven numerator (denominator * 2 ^ unit) ≤ 2 ^ 53 := by
    apply roundHalfEven_le step
    lia
  have exact := @lt_roundHalfEven_iff numerator _ step (2 ^ 53 - 1)
  generalize roundHalfEven numerator (denominator * 2 ^ unit) = rounded at *
  rcases Nat.lt_trichotomy unit (base + 1) with low | rfl | high
  · rcases Nat.exists_eq_add_of_le (Nat.le_of_lt_succ low) with ⟨rest, sum⟩
    rw [sum, Nat.pow_add 2 unit rest]
    have unitPos := Nat.two_pow_pos unit
    have restPos := Nat.two_pow_pos rest
    generalize 2 ^ unit = units at *
    generalize 2 ^ rest = factor at *
    have larger : units ≤ units * factor := Nat.le_mul_of_pos_right _ restPos
    apply iff_of_false
    · apply Nat.not_le_of_lt
      have short := Nat.mul_le_mul_right units atMost
      omega
    · apply Nat.not_le_of_lt
      have short := Nat.mul_le_mul_left denominator larger
      lia
  · have halfPos := Nat.two_pow_pos base
    have doubled : 2 ^ (base + 1) = 2 * 2 ^ base := Nat.pow_succ'
    rw [doubled] at exact ⊢
    generalize 2 ^ base = half at *
    have reaches : 2 ^ 54 * half ≤ rounded * (2 * half) ↔ 2 ^ 53 - 1 < rounded := by
      rw [← Nat.mul_assoc, Nat.mul_le_mul_right_iff halfPos]
      omega
    rw [reaches, exact, Nat.mul_assoc]
    lia
  · rcases Nat.exists_eq_add_of_le (Nat.succ_le_of_lt high) with ⟨rest, sum⟩
    have restPos := Nat.two_pow_pos rest
    have units : 2 ^ unit = 4 * 2 ^ base * 2 ^ rest := by
      rw [sum, Nat.pow_add, Nat.pow_succ, Nat.pow_succ]
      ring
    have larger : 4 * 2 ^ base ≤ 2 ^ unit := units ▸ Nat.le_mul_of_pos_right _ restPos
    generalize 2 ^ unit = units at *
    generalize 2 ^ base = half at *
    apply iff_of_true
    · have long := Nat.mul_le_mul atLeast larger
      omega
    · have long := Nat.mul_le_mul_left denominator larger
      lia

/-- A quotient is lost exactly when it lies half a unit in the last place above the largest number. -/
theorem overflows_of_coarse {unit : Nat} (positive : 0 < denominator)
    (scaled : scale numerator denominator = unit)
    (lower : denominator * 2 ^ (52 + unit) ≤ numerator)
    (upper : numerator < denominator * 2 ^ (53 + unit)) :
    (of numerator denominator).overflows = true ↔ overflowBound * denominator ≤ numerator := by
  have whole : (unit : Int).toNat = unit := by omega
  have greatest : Nat.pow 2 1024 = 2 ^ 54 * 2 ^ 970 := by decide +kernel
  rw [of_coarse scaled, overflows, decide_eq_true_eq, overflowBound_eq, greatest, whole,
    Nat.pow_eq]
  exact reaches_iff_of_coarse positive lower upper 970

theorem whole_bounds (positive : 0 < denominator) (whole : denominator ≤ numerator) :
    denominator * 2 ^ (numerator / denominator).log2 ≤ numerator ∧
      numerator < denominator * 2 ^ ((numerator / denominator).log2 + 1) := by
  have nonzero : numerator / denominator ≠ 0 := Nat.ne_of_gt (Nat.div_pos whole positive)
  have bounds := (Nat.log2_eq_iff nonzero).mp rfl
  rwa [Nat.le_div_iff_mul_le positive, Nat.div_lt_iff_lt_mul positive, Nat.mul_comm,
    Nat.mul_comm (2 ^ _)] at bounds

/-- Where a quotient stands on the grid of binary numbers: below one, among numbers with places behind the
point, or among whole numbers. -/
inductive Grid (numerator denominator : Nat) : Prop where
  | fraction (places : Nat) (below : numerator < denominator)
      (scaled : scale numerator denominator = -places) (most : places ≤ 1074)
      (short : numerator * 2 ^ places < 2 ^ 54 * denominator)
      (long : places ≠ 1074 → denominator ≤ numerator * 2 ^ places)
  | fine (places : Nat) (whole : denominator ≤ numerator)
      (bits : (numerator / denominator).log2 + places = 52)
      (scaled : scale numerator denominator = -places)
  | coarse (unit : Nat) (whole : denominator ≤ numerator)
      (bits : (numerator / denominator).log2 = 53 + unit)
      (scaled : scale numerator denominator = (unit + 1 : Nat))

theorem grid (numeratorPos : 0 < numerator) (positive : 0 < denominator) :
    Grid numerator denominator := by
  rcases Nat.lt_or_ge numerator denominator with below | whole
  · rcases exists_places_of_fraction numeratorPos below with ⟨places, scaled, most, short, long⟩
    exact .fraction places below scaled most short long
  · have scaled := scale_of_whole positive whole
    rcases Nat.lt_or_ge (numerator / denominator).log2 53 with few | many
    · exact .fine (52 - (numerator / denominator).log2) whole (by omega) (by omega)
    · exact .coarse ((numerator / denominator).log2 - 53) whole (by omega) (by omega)

/-- A quotient overflows exactly when it lies at least half a unit in the last place above the largest
number. -/
theorem overflows_iff (numeratorPos : 0 < numerator) (positive : 0 < denominator) :
    (of numerator denominator).overflows = true ↔ overflowBound * denominator ≤ numerator := by
  have beyond : 2 ^ 54 ≤ overflowBound := by decide +kernel
  have within (small : numerator < 2 ^ 54 * denominator) :
      ¬overflowBound * denominator ≤ numerator := by
    have larger := Nat.mul_le_mul_right denominator beyond
    omega
  cases grid numeratorPos positive with
  | fraction places below scaled most short long =>
      rw [overflows_of_fine positive scaled short]
      exact iff_of_false nofun (within (by omega))
  | fine places whole bits scaled =>
      have upper := (whole_bounds positive whole).2
      have short : numerator * 2 ^ places < 2 ^ 53 * denominator := by
        calc numerator * 2 ^ places < _ := Nat.mul_lt_mul_of_pos_right upper (Nat.two_pow_pos places)
          _ = denominator * 2 ^ ((numerator / denominator).log2 + 1 + places) := by
            rw [Nat.mul_assoc, ← Nat.pow_add]
          _ = 2 ^ 53 * denominator := by
            rw [Nat.add_right_comm, bits, Nat.mul_comm]
      rw [overflows_of_fine positive scaled (by omega)]
      have least := Nat.le_mul_of_pos_right numerator (Nat.two_pow_pos places)
      exact iff_of_false nofun (within (by omega))
  | coarse unit whole bits scaled =>
      have bounds := whole_bounds positive whole
      apply overflows_of_coarse positive scaled
      · rw [bits] at bounds
        exact (Nat.add_right_comm 52 unit 1 ▸ bounds.1)
      · rw [bits] at bounds
        exact bounds.2

/-! ## Ceilings -/

theorem ceil_of_fine {places : Nat} (scaled : scale numerator denominator = -places) :
    (of numerator denominator).ceil =
      ceilDiv (roundHalfEven (numerator * 2 ^ places) denominator) (2 ^ places) := by
  have up : (-(places : Int)).toNat = 0 := by omega
  have down : (- -(places : Int)).toNat = places := by omega
  rw [of_fine scaled]
  simp only [ceil, up, down, Nat.pow_eq, Nat.pow_zero, Nat.mul_one]

theorem ceil_of_coarse {unit : Nat} (scaled : scale numerator denominator = unit) :
    (of numerator denominator).ceil =
      roundHalfEven numerator (denominator * 2 ^ unit) * 2 ^ unit := by
  have up : (unit : Int).toNat = unit := by omega
  have down : (-(unit : Int)).toNat = 0 := by omega
  rw [of_coarse scaled]
  simp only [ceil, ceilDiv, up, down, Nat.pow_eq, Nat.pow_zero, Nat.div_one, Nat.add_sub_cancel]

/-- On a grid with places behind the point the ceiling is kept unless a rest gets lost. -/
theorem ceilDiv_fine_eq_iff (positive : 0 < denominator) (places : Nat) :
    ceilDiv (roundHalfEven (numerator * 2 ^ places) denominator) (2 ^ places) =
        ceilDiv numerator denominator ↔
      numerator % denominator = 0 ∨
        denominator < 2 ^ (places + 1) * (numerator % denominator) ∨
          denominator = 2 ^ (places + 1) * (numerator % denominator) ∧
            numerator / denominator * 2 ^ places % 2 = 1 := by
  have split := Nat.div_add_mod' numerator denominator
  have rest := Nat.mod_lt numerator positive
  have stepPos := Nat.two_pow_pos places
  have exact := @lt_roundHalfEven_iff (numerator * 2 ^ places) _ positive
    (numerator / denominator * 2 ^ places)
  generalize numerator / denominator = whole at *
  generalize numerator % denominator = remainder at *
  have scaled : numerator * 2 ^ places =
      whole * 2 ^ places * denominator + remainder * 2 ^ places := by
    rw [← split]
    ring
  rw [Nat.pow_succ']
  generalize 2 ^ places = step at *
  have lower : whole * step ≤ roundHalfEven (numerator * step) denominator :=
    le_roundHalfEven positive (by omega)
  have upper : roundHalfEven (numerator * step) denominator ≤ (whole + 1) * step := by
    have fraction := Nat.mul_le_mul_right step (Nat.le_of_lt rest)
    exact roundHalfEven_le positive (by lia)
  by_cases none : remainder = 0
  · rw [none, Nat.zero_mul] at scaled
    have rounded : roundHalfEven (numerator * step) denominator = whole * step := by
      omega
    rw [rounded, ceilDiv_mul stepPos, ← split, none, Nat.add_zero, ceilDiv_mul positive]
    exact iff_of_true rfl (.inl rfl)
  · have above : ceilDiv numerator denominator = whole + 1 :=
      (ceilDiv_eq_succ_iff positive).mpr (by lia)
    rw [above, ceilDiv_eq_succ_iff stepPos, or_iff_right none, Nat.mul_comm step, exact,
      Nat.mul_comm step]
    constructor
    · intro kept
      lia
    · intro kept
      exact ⟨by lia, upper⟩

/-- On a grid of whole numbers the ceiling is kept when it is on the grid. -/
theorem roundHalfEven_coarse_eq_iff (positive : 0 < denominator) (unit : Nat) :
    roundHalfEven numerator (denominator * 2 ^ (unit + 1)) * 2 ^ (unit + 1) =
        ceilDiv numerator denominator ↔
      2 ^ (unit + 1) ∣ ceilDiv numerator denominator := by
  constructor
  · intro same
    exact Dvd.intro_left _ same
  · intro onGrid
    rcases onGrid with ⟨nearest, ceiling⟩
    have upper := (ceilDiv_le_iff positive).mp ceiling.le
    have lower : 2 ^ (unit + 1) * nearest * denominator < numerator + denominator := by
      rcases Nat.eq_zero_or_pos (2 ^ (unit + 1) * nearest) with zero | some
      · rw [zero]
        omega
      · have before : denominator * (2 ^ (unit + 1) * nearest - 1) < numerator := by
          apply (lt_ceilDiv_iff positive).mp
          rw [ceiling]
          exact Nat.sub_lt some Nat.one_pos
        rw [Nat.mul_sub, Nat.mul_one, Nat.mul_comm] at before
        omega
    have step : 2 * denominator ≤ denominator * 2 ^ (unit + 1) := by
      rw [Nat.pow_succ']
      have least := Nat.le_mul_of_pos_right denominator (Nat.two_pow_pos unit)
      lia
    rw [ceiling, Nat.mul_comm (2 ^ (unit + 1))]
    congr 1
    apply roundHalfEven_eq_of_near (by omega)
    · lia
    · lia

/-- Rounding a quotient to a binary number leaves its ceiling as it is. Below one, the quotient must not
be so small that it becomes zero. Below `2 ^ 53`, where numbers have places behind the point, what is
left over the whole number must not be so small that it gets lost; of half a step only an odd number is
rounded up. From there on numbers have no places behind the point, and then not all of their units: the
ceiling must be a number itself. -/
def KeepsCeiling (numerator denominator : Nat) : Prop :=
  let whole := numerator / denominator
  let rest := numerator % denominator
  if whole = 0 then denominator < 2 ^ 1075 * numerator
  else if whole < 2 ^ 53 then
    rest = 0 ∨ denominator < 2 ^ (53 - whole.log2) * rest ∨
      2 ^ 52 ≤ whole ∧ whole % 2 = 1 ∧ denominator = 2 * rest
  else 2 ^ (whole.log2 - 52) ∣ ⌈(numerator : ℚ) / denominator⌉₊

/-- A quotient below one is lost only where binary numbers are as close together as they can be. -/
theorem rounds_up_iff_of_fraction {places : Nat} (most : places ≤ 1074)
    (long : places ≠ 1074 → denominator ≤ numerator * 2 ^ places) (positive : 0 < numerator) :
    denominator < 2 ^ (places + 1) * numerator ↔ denominator < 2 ^ 1075 * numerator := by
  by_cases least : places = 1074
  · have sum : places + 1 = 1075 := by omega
    rw [sum]
  · have some : 0 < numerator * 2 ^ places := Nat.mul_pos positive (Nat.two_pow_pos places)
    have doubled : denominator < 2 ^ (places + 1) * numerator := by
      calc denominator ≤ numerator * 2 ^ places := long least
        _ < 2 * (numerator * 2 ^ places) := by omega
        _ = 2 ^ (places + 1) * numerator := by
          rw [Nat.pow_succ']
          ring
    rcases Nat.exists_eq_add_of_le (show places + 1 ≤ 1075 by omega) with ⟨more, sum⟩
    have greater := Nat.le_mul_of_pos_right (2 ^ (places + 1)) (Nat.two_pow_pos more)
    rw [sum, Nat.pow_add 2 (places + 1)]
    exact iff_of_true doubled (Nat.lt_of_lt_of_le doubled (Nat.mul_le_mul_right numerator greater))

/-- A whole number that has places behind the point stands on an odd place of the grid only where these
have all become whole. -/
theorem odd_iff_of_fine {places whole rest : Nat} (nonzero : whole ≠ 0)
    (bits : whole.log2 + places = 52) :
    denominator = 2 ^ (places + 1) * rest ∧ whole * 2 ^ places % 2 = 1 ↔
      2 ^ 52 ≤ whole ∧ whole % 2 = 1 ∧ denominator = 2 * rest := by
  cases places with
  | zero =>
      have long := Nat.log2_self_le nonzero
      rw [show whole.log2 = 52 from bits] at long
      rw [Nat.pow_zero, Nat.mul_one, Nat.zero_add, Nat.pow_one]
      tauto
  | succ places =>
      have few : whole < 2 ^ 52 := (Nat.log2_lt nonzero).mp (by omega)
      have even : whole * 2 ^ (places + 1) % 2 = 0 := by
        rw [Nat.pow_succ, ← Nat.mul_assoc, Nat.mul_mod_left]
      exact iff_of_false (by omega) (by omega)

theorem ceil_eq_iff (numeratorPos : 0 < numerator) (positive : 0 < denominator) :
    (of numerator denominator).ceil = ⌈(numerator : ℚ) / denominator⌉₊ ↔
      KeepsCeiling numerator denominator := by
  rw [KeepsCeiling, ceil_div_eq positive]
  cases grid numeratorPos positive with
  | fraction places below scaled most short long =>
      rw [ceil_of_fine scaled, ceilDiv_fine_eq_iff positive, Nat.div_eq_of_lt below,
        Nat.mod_eq_of_lt below, if_pos rfl, or_iff_right (Nat.ne_of_gt numeratorPos),
        or_iff_left fun tie => by simp at tie]
      exact rounds_up_iff_of_fraction most long numeratorPos
  | fine places whole bits scaled =>
      have nonzero : numerator / denominator ≠ 0 := Nat.ne_of_gt (Nat.div_pos whole positive)
      have short : numerator / denominator < 2 ^ 53 := (Nat.log2_lt nonzero).mp (by omega)
      have next : 53 - (numerator / denominator).log2 = places + 1 := by omega
      rw [ceil_of_fine scaled, ceilDiv_fine_eq_iff positive, if_neg nonzero, if_pos short, next,
        odd_iff_of_fine nonzero bits]
  | coarse unit whole bits scaled =>
      have nonzero : numerator / denominator ≠ 0 := Nat.ne_of_gt (Nat.div_pos whole positive)
      have long : ¬numerator / denominator < 2 ^ 53 := by
        rw [← Nat.log2_lt nonzero]
        omega
      have units : (numerator / denominator).log2 - 52 = unit + 1 := by omega
      rw [ceil_of_coarse scaled, roundHalfEven_coarse_eq_iff positive, if_neg nonzero, if_neg long,
        units]

/-- The ceiling of a quotient is kept when its numerator has a number of its own, unless the quotient is
so small that it becomes zero. -/
theorem keepsCeiling_of_small (positive : 0 < denominator)
    (small : numerator ≤ 2 ^ 53) (nonzero : denominator < 2 ^ 1075 * numerator) :
    KeepsCeiling numerator denominator := by
  have split := Nat.div_add_mod numerator denominator
  rw [KeepsCeiling]
  split
  · exact nonzero
  · next some =>
    have bits := Nat.log2_self_le some
    have room := Nat.mul_le_mul_left denominator bits
    split
    · next short =>
      have few : (numerator / denominator).log2 ≤ 52 :=
        Nat.le_of_lt_succ ((Nat.log2_lt some).mpr short)
      rcases Nat.eq_zero_or_pos (numerator % denominator) with none | rest
      · exact .inl none
      · right
        left
        have whole : 2 ^ 53 =
            2 ^ (53 - (numerator / denominator).log2) * 2 ^ (numerator / denominator).log2 := by
          rw [← Nat.pow_add, Nat.sub_add_cancel (by omega)]
        have fits : denominator < 2 ^ (53 - (numerator / denominator).log2) := by
          apply Nat.lt_of_mul_lt_mul_right (a := 2 ^ (numerator / denominator).log2)
          omega
        exact Nat.lt_of_lt_of_le fits (Nat.le_mul_of_pos_right _ rest)
    · next long =>
      have least := Nat.mul_le_mul_left denominator (Nat.le_of_not_lt long)
      have single : denominator = 1 := by omega
      have full : numerator = 2 ^ 53 := by omega
      subst single full
      rw [Nat.div_one, Nat.log2_two_pow, Nat.cast_one, div_one, Nat.ceil_natCast]
      exact Nat.pow_dvd_pow 2 (by decide)

end Quotient

end HybridSearch.Number
