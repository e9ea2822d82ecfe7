import HybridSearch.Predicate.Compile
import HybridSearch.Predicate.Truth
import HybridSearch.Proofs.Calendar

/-! What a filter asks of the tags of a chunk, said without queries, and the predicate of a filter,
which is true of exactly the tags that the filter asks for. -/

namespace HybridSearch

/-! ## What filters ask -/

/-- What an operator asks of a text. The text is in the lower case of the store, and the value of
the filter in lower case by the full mapping. -/
def TextOperator.Relates (operator : TextOperator) (stored value : String) : Prop :=
  let body := Pattern.escaped value.toList
  match operator with
  | equal => stored = value
  | notEqual => stored ≠ value
  | contains => Pattern.like stored.toList ⟨true, body, true⟩ = true
  | notContains => Pattern.like stored.toList ⟨true, body, true⟩ = false
  | startsWith => Pattern.like stored.toList ⟨false, body, true⟩ = true
  | endsWith => Pattern.like stored.toList ⟨true, body, false⟩ = true

namespace Comparison

/-- How a number of the store lies to a bound. The two zeros are equal, and what is no number is
not equal to anything and comes neither before nor behind anything. -/
def RelatesNumbers (comparison : Comparison) (stored bound : Float) : Prop :=
  match comparison with
  | equal => (stored == bound) = true
  | notEqual => (stored == bound) = false
  | greater => bound < stored
  | greaterOrEqual => bound ≤ stored
  | less => stored < bound
  | lessOrEqual => stored ≤ bound

/-- How a day of the store lies to a bound in the calendar. -/
def RelatesDates (comparison : Comparison) (stored bound : Date) : Prop :=
  match comparison with
  | equal => stored = bound
  | notEqual => stored ≠ bound
  | greater => bound.Before stored
  | greaterOrEqual => ¬stored.Before bound
  | less => stored.Before bound
  | lessOrEqual => ¬bound.Before stored

end Comparison

/-- A range has a value that lies to its bound as the comparison says, or not below the lower and
not above the upper of two bounds. -/
def Range.Contains {α : Type} (relates : Comparison → α → α → Prop) (range : Range α)
    (stored : α) : Prop :=
  match range with
  | compare comparison bound => relates comparison stored bound
  | between lower upper =>
      relates .greaterOrEqual stored lower ∧ relates .lessOrEqual stored upper

/-- What an operator asks of a truth value. -/
def BooleanOperator.Relates (operator : BooleanOperator) (stored value : Bool) : Prop :=
  match operator with
  | equal => stored = value
  | notEqual => stored ≠ value

/-- Whether tags are what a filter asks for, where timestamps lie on days in some way. Whatever the
operator, the slot must not be empty. -/
def Filter.SatisfiedBy (dayOf? : Timestamp → Option Date) (filter : Filter) (tags : Tags) : Prop :=
  match filter with
  | text position operator value =>
      ∃ stored, tags.texts.get position = some stored ∧
        operator.Relates (Text.lowercaseAscii stored) (Text.lowercase value)
  | number position range =>
      ∃ stored, tags.numbers.get position = some stored ∧
        range.Contains Comparison.RelatesNumbers stored
  | date position range =>
      ∃ stored day, tags.dates.get position = some stored ∧ dayOf? stored = some day ∧
        range.Contains Comparison.RelatesDates day
  | boolean position operator value =>
      ∃ stored, tags.booleans.get position = some stored ∧ operator.Relates stored value

/-! ## Predicates mean what filters ask -/

theorem Range.holds_ofNumbers_iff (range : Range Float) (stored : Float) :
    range.holds .ofNumbers stored = true ↔ range.Contains Comparison.RelatesNumbers stored := by
  cases range with
  | compare comparison bound =>
      cases comparison <;>
        simp [Range.holds, Range.Contains, ValueOrder.ofNumbers, Comparison.RelatesNumbers]
  | between lower upper =>
      simp [Range.holds, Range.Contains, ValueOrder.ofNumbers, Comparison.RelatesNumbers]

theorem Range.holds_ofDates_iff (range : Range Date) (stored : Date) :
    range.holds .ofDates stored = true ↔ range.Contains Comparison.RelatesDates stored := by
  cases range with
  | compare comparison bound =>
      cases comparison <;>
        simp [Range.holds, Range.Contains, ValueOrder.ofDates, Comparison.RelatesDates,
          ← Date.rank_lt_rank_iff]
  | between lower upper =>
      simp [Range.holds, Range.Contains, ValueOrder.ofDates, Comparison.RelatesDates,
        ← Date.rank_lt_rank_iff]

variable {dayOf? : Timestamp → Option Date} {tags : Tags}

theorem TextOperator.predicate_holds_iff (operator : TextOperator) (position : Fin 7)
    (value : String) :
    (operator.predicate position value).holds dayOf? tags = some true ↔
      (Filter.text position operator value).SatisfiedBy dayOf? tags := by
  cases operator <;>
    simp [TextOperator.predicate, Predicate.holds, Filter.SatisfiedBy, TextOperator.Relates]

/-- The predicate of a filter is true of some tags exactly when the filter asks for them. -/
theorem Filter.predicate_holds_iff (filter : Filter) :
    filter.predicate.holds dayOf? tags = some true ↔ filter.SatisfiedBy dayOf? tags := by
  cases filter with
  | text position operator value =>
      exact operator.predicate_holds_iff position value
  | number position range =>
      simp [Filter.predicate, Predicate.holds, Filter.SatisfiedBy, Range.holds_ofNumbers_iff]
  | date position range =>
      simp only [Filter.predicate, Predicate.holds, Filter.SatisfiedBy, Option.map_eq_some_iff,
        Option.bind_eq_some_iff, Range.holds_ofDates_iff]
      constructor
      · intro found
        rcases found with ⟨day, ⟨stored, filled, lies⟩, contained⟩
        exact ⟨stored, day, filled, lies, contained⟩
      · intro found
        rcases found with ⟨stored, day, filled, lies, contained⟩
        exact ⟨day, ⟨stored, filled, lies⟩, contained⟩
  | boolean position operator value =>
      cases operator <;>
        simp [Filter.predicate, Predicate.holds, Filter.SatisfiedBy, BooleanOperator.Relates]

/-! ## Days -/

/-- All timestamps among some tags lie on the days that they are written with. -/
def Tags.KeepDays (tags : Tags) (dayOf? : Timestamp → Option Date) : Prop :=
  ∀ position stored, tags.dates.get position = some stored → dayOf? stored = some stored.date

/-- Where days are kept, it makes no difference whether the days count that are written. -/
theorem Tags.KeepDays.satisfiedBy_iff (keep : tags.KeepDays dayOf?) (filter : Filter) :
    filter.SatisfiedBy (fun stored => some stored.date) tags ↔ filter.SatisfiedBy dayOf? tags := by
  cases filter with
  | text position operator value => exact Iff.rfl
  | number position range => exact Iff.rfl
  | boolean position operator value => exact Iff.rfl
  | date position range =>
      apply exists_congr
      intro stored
      apply exists_congr
      intro day
      apply and_congr_right
      intro filled
      rw [keep position stored filled]

/-! ## Clauses -/

theorem Truth.or_eq_true_iff (left right : Truth) :
    Truth.or left right = some true ↔ left = some true ∨ right = some true := by
  rcases left with _ | _ | _ <;> rcases right with _ | _ | _ <;> simp [Truth.or]

/-- One of several is true exactly when one of them is: what is false or unknown does not count. -/
theorem Truth.any_eq_true_iff (truths : List Truth) :
    Truth.any truths = some true ↔ some true ∈ truths := by
  induction truths with
  | nil => simp [Truth.any]
  | cons first rest induction =>
      have behind : Truth.any (first :: rest) = Truth.or first (Truth.any rest) := rfl
      rw [behind, Truth.or_eq_true_iff, induction, List.mem_cons, eq_comm]

theorem Clause.holds_iff (clause : Clause) :
    clause.holds dayOf? tags = some true ↔
      ∃ predicate ∈ clause.members, predicate.holds dayOf? tags = some true := by
  simp [Clause.holds, Truth.any_eq_true_iff]

end HybridSearch
