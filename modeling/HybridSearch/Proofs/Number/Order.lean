/-! The order of binary numbers. It is decided first by how a number lies to zero and to the infinite
ones, then by the exponent, then by the mantissa, so it is transitive, and total between all that is a
number. What is no number does not even stand before itself. -/

namespace HybridSearch.Number

open Float.Model (UnpackedFloat)

/-- What decides where a number stands. -/
structure Rank where
  level : Int
  exponent : Int
  mantissa : Int
deriving Repr, DecidableEq

namespace Rank

def NotAbove (lower upper : Rank) : Prop :=
  lower.level < upper.level ∨ lower.level = upper.level ∧
    (lower.exponent < upper.exponent ∨ lower.exponent = upper.exponent ∧
      lower.mantissa ≤ upper.mantissa)

theorem NotAbove.trans {low middle high : Rank} (first : low.NotAbove middle)
    (second : middle.NotAbove high) : low.NotAbove high := by
  unfold NotAbove at *
  omega

theorem NotAbove.antisymm {left right : Rank} (below : left.NotAbove right)
    (above : right.NotAbove left) : left = right := by
  rcases left with ⟨leftLevel, leftExponent, leftMantissa⟩
  rcases right with ⟨rightLevel, rightExponent, rightMantissa⟩
  simp only [NotAbove, mk.injEq] at *
  omega

theorem notAbove_total (left right : Rank) : left.NotAbove right ∨ right.NotAbove left := by
  unfold NotAbove
  omega

/-- Below zero the greater exponent and the greater mantissa come first. -/
def of? : UnpackedFloat → Option Rank
  | .notANumber => none
  | .infinity .negative => some ⟨-2, 0, 0⟩
  | .finite .negative mantissa exponent _ => some ⟨-1, -exponent, -mantissa⟩
  | .zero _ => some ⟨0, 0, 0⟩
  | .finite .positive mantissa exponent _ => some ⟨1, exponent, mantissa⟩
  | .infinity .positive => some ⟨2, 0, 0⟩

theorem isLE_then_iff (leftExponent rightExponent : Int) (leftMantissa rightMantissa : Nat) :
    ((compare leftExponent rightExponent).then (compare leftMantissa rightMantissa)).isLE = true ↔
      leftExponent < rightExponent ∨
        leftExponent = rightExponent ∧ leftMantissa ≤ rightMantissa := by
  simp [Ordering.isLE_then_iff_or, Int.compare_eq_lt, Nat.isLE_compare]

theorem isGE_then_iff (leftExponent rightExponent : Int) (leftMantissa rightMantissa : Nat) :
    ((compare leftExponent rightExponent).then (compare leftMantissa rightMantissa)).isGE = true ↔
      rightExponent < leftExponent ∨
        leftExponent = rightExponent ∧ rightMantissa ≤ leftMantissa := by
  rw [← Ordering.isLE_swap, Ordering.swap_then, Int.compare_swap, Nat.compare_swap,
    isLE_then_iff, eq_comm (a := rightExponent)]

/-- One number stands before another one exactly when its rank is not above that of the other. -/
theorem le_iff (left right : UnpackedFloat) :
    left.le right = true ↔ ∃ lower upper, of? left = some lower ∧ of? right = some upper ∧
      lower.NotAbove upper := by
  -- Only two finite numbers of one sign are compared by more than their levels.
  rcases left with (_ | _) | _ | _ | ⟨_ | _, leftMantissa, leftExponent, _⟩ <;>
    rcases right with (_ | _) | _ | _ | ⟨_ | _, rightMantissa, rightExponent, _⟩ <;>
      dsimp only [UnpackedFloat.le, UnpackedFloat.compare, of?] <;>
        simp [NotAbove, isLE_then_iff, isGE_then_iff]
  case infinity.negative.infinity.negative => rfl
  case infinity.negative.infinity.positive => rfl
  case infinity.positive.infinity.negative => rfl
  case infinity.positive.infinity.positive => rfl

/-- One number stands before another one and not behind it exactly when its rank is below. -/
theorem lt_iff (left right : UnpackedFloat) :
    left.compare right = some .lt ↔ ∃ lower upper, of? left = some lower ∧
      of? right = some upper ∧ ¬upper.NotAbove lower := by
  rcases left with (_ | _) | _ | _ | ⟨_ | _, leftMantissa, leftExponent, _⟩ <;>
    rcases right with (_ | _) | _ | _ | ⟨_ | _, rightMantissa, rightExponent, _⟩ <;>
      dsimp only [UnpackedFloat.compare, of?] <;>
        simp [NotAbove, Ordering.then_eq_lt, Ordering.then_eq_gt, Int.compare_eq_lt,
          Int.compare_eq_gt, Nat.compare_eq_lt, Nat.compare_eq_gt]
  case infinity.negative.infinity.positive => rfl
  case finite.negative.finite.negative => omega
  case finite.positive.finite.positive => omega

/-- Two numbers are equal exactly when they have one rank. -/
theorem eq_iff (left right : UnpackedFloat) :
    left.compare right = some .eq ↔ ∃ rank, of? left = some rank ∧ of? right = some rank := by
  rcases left with (_ | _) | _ | _ | ⟨_ | _, leftMantissa, leftExponent, _⟩ <;>
    rcases right with (_ | _) | _ | _ | ⟨_ | _, rightMantissa, rightExponent, _⟩ <;>
      dsimp only [UnpackedFloat.compare, of?] <;> simp
  case infinity.negative.infinity.negative => rfl
  case infinity.positive.infinity.positive => rfl
  case finite.negative.finite.negative => omega
  case finite.positive.finite.positive => omega

/-- Nothing but what is no number is without a rank. -/
theorem of?_eq_none_iff {number : UnpackedFloat} : of? number = none ↔ number = .notANumber := by
  cases number with
  | notANumber => exact iff_of_true rfl rfl
  | infinity sign => cases sign <;> exact iff_of_false nofun nofun
  | zero sign => exact iff_of_false nofun nofun
  | finite sign mantissa exponent positive => cases sign <;> exact iff_of_false nofun nofun

end Rank

/-! ## Floats -/

theorem le_iff_exists_rank {left right : Float} :
    left ≤ right ↔ ∃ lower upper, Rank.of? left.toModel.unpack = some lower ∧
      Rank.of? right.toModel.unpack = some upper ∧ lower.NotAbove upper := by
  rw [← Rank.le_iff]
  change left.le right = true ↔ _
  rw [Float.le, decide_eq_true_iff]
  rfl

theorem le_trans {low middle high : Float} (first : low ≤ middle) (second : middle ≤ high) :
    low ≤ high := by
  rcases le_iff_exists_rank.mp first with ⟨lower, _, lowRank, middleRank, below⟩
  rcases le_iff_exists_rank.mp second with ⟨_, upper, sameRank, highRank, above⟩
  cases middleRank.symm.trans sameRank
  exact le_iff_exists_rank.mpr ⟨lower, upper, lowRank, highRank, below.trans above⟩

/-- Two that each stand before themselves are numbers, and one of them stands before the other. -/
theorem le_total {left right : Float} (isLeft : left ≤ left) (isRight : right ≤ right) :
    left ≤ right ∨ right ≤ left := by
  rcases le_iff_exists_rank.mp isLeft with ⟨leftRank, _, foundLeft, _⟩
  rcases le_iff_exists_rank.mp isRight with ⟨rightRank, _, foundRight, _⟩
  rcases leftRank.notAbove_total rightRank with below | above
  · exact .inl (le_iff_exists_rank.mpr ⟨leftRank, rightRank, foundLeft, foundRight, below⟩)
  · exact .inr (le_iff_exists_rank.mpr ⟨rightRank, leftRank, foundRight, foundLeft, above⟩)

theorem lt_iff_exists_rank {left right : Float} :
    left < right ↔ ∃ lower upper, Rank.of? left.toModel.unpack = some lower ∧
      Rank.of? right.toModel.unpack = some upper ∧ ¬upper.NotAbove lower := by
  rw [← Rank.lt_iff]
  change left.lt right = true ↔ _
  rw [Float.lt, decide_eq_true_iff]
  exact beq_iff_eq

theorem beq_iff_exists_rank {left right : Float} :
    (left == right) = true ↔ ∃ rank, Rank.of? left.toModel.unpack = some rank ∧
      Rank.of? right.toModel.unpack = some rank := by
  rw [← Rank.eq_iff]
  change (left.toModel.unpack.compare right.toModel.unpack == some .eq) = true ↔ _
  exact beq_iff_eq

/-- Numbers neither of which is above the other one are equal. -/
theorem beq_of_le_of_le {left right : Float} (below : left ≤ right) (above : right ≤ left) :
    (left == right) = true := by
  rcases le_iff_exists_rank.mp below with ⟨lower, upper, leftRank, rightRank, notAbove⟩
  rcases le_iff_exists_rank.mp above with ⟨_, _, sameRight, sameLeft, notBelow⟩
  cases leftRank.symm.trans sameLeft
  cases rightRank.symm.trans sameRight
  cases notAbove.antisymm notBelow
  exact beq_iff_exists_rank.mpr ⟨lower, leftRank, rightRank⟩

/-- A number stands before itself, and nothing else does. -/
theorem le_self_iff {number : Float} : number ≤ number ↔ number.toModel.unpack ≠ .notANumber := by
  rw [le_iff_exists_rank, Ne, ← Rank.of?_eq_none_iff]
  cases Rank.of? number.toModel.unpack with
  | none => simp
  | some rank => simpa using rank.notAbove_total rank

/-- What is below something is a number. -/
theorem le_self_of_lt {left right : Float} (less : left < right) : left ≤ left := by
  rcases lt_iff_exists_rank.mp less with ⟨rank, _, ranked, _, _⟩
  refine le_self_iff.mpr fun notANumber => ?_
  cases ranked.symm.trans (Rank.of?_eq_none_iff.mpr notANumber)

theorem le_self_of_isFinite {number : Float} (finite : number.isFinite = true) :
    number ≤ number := by
  refine le_self_iff.mpr fun notANumber => ?_
  have unpacked : number.toModel.unpack.isFinite = true := finite
  rw [notANumber] at unpacked
  cases unpacked

theorem not_le_of_lt {left right : Float} (less : left < right) : ¬right ≤ left := by
  intro notAbove
  rcases lt_iff_exists_rank.mp less with ⟨_, _, leftRank, rightRank, above⟩
  rcases le_iff_exists_rank.mp notAbove with ⟨_, _, sameRight, sameLeft, below⟩
  cases leftRank.symm.trans sameLeft
  cases rightRank.symm.trans sameRight
  exact above below

end HybridSearch.Number
