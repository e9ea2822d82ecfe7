import HybridSearch.Filter.Reading
import HybridSearch.Proofs.Outcome
import HybridSearch.Proofs.Slot

/-! A filter that is kept is about the slot that the raw filter names. -/

namespace HybridSearch

/-- The filter that is kept, if it is. -/
def Reading.filter? : Reading → Option Filter
  | kept filter => some filter
  | dropped _ => none

namespace RawFilter

/-- The filter that a raw filter is kept as, if it is. -/
def kept? (raw : RawFilter) : Option Filter :=
  raw.read.toOption.bind Reading.filter?

theorem kept?_eq_some_iff {raw : RawFilter} {filter : Filter} :
    raw.kept? = some filter ↔ raw.read = .ok (.kept filter) := by
  rw [kept?]
  rcases raw.read with failure | (kept | reason) <;>
    simp [Except.toOption, Reading.filter?]

theorem slot_of_readText {raw : RawFilter} {position : Fin 7} {filter : Filter}
    (kept : raw.readText position = .kept filter) : filter.slot = .text position := by
  rw [readText] at kept
  split at kept <;> cases kept
  rfl

/-- The second bound of a filter on a number slot, which only a range between two values has. -/
def upper? (raw : RawFilter) (operator : RangeOperator) : Except Failure (Option Float) :=
  if operator = .between then raw.valueTo.filterNumber? else .ok none

/-- A filter on a number slot, step by step: the first value, then the second bound. -/
theorem readNumber_eq_bind {raw : RawFilter} {operator : RangeOperator} (position : Fin 5)
    (named : RangeOperator.ofName? raw.operator = some operator) :
    raw.readNumber position = raw.value.filterNumber? >>= fun number? =>
      match number? with
      | none => .ok (.dropped .invalidNumber)
      | some value => raw.upper? operator >>= fun upper? =>
          .ok (.kept (.number position (operator.range value upper?))) := by
  rw [readNumber, upper?]
  rw [named]
  refine congrArg (raw.value.filterNumber? >>= ·) (funext fun number? => ?_)
  cases number? with
  | none => rfl
  | some value =>
      dsimp only
      split <;> rfl

theorem readNumber_eq_kept_iff {raw : RawFilter} {position : Fin 5} {filter : Filter} :
    raw.readNumber position = .ok (.kept filter) ↔
      ∃ operator value upper?, RangeOperator.ofName? raw.operator = some operator ∧
        raw.value.filterNumber? = .ok (some value) ∧ raw.upper? operator = .ok upper? ∧
        Filter.number position (operator.range value upper?) = filter := by
  cases named : RangeOperator.ofName? raw.operator with
  | none => simp [readNumber, named]
  | some operator =>
      rw [readNumber_eq_bind position named, Outcome.bind_eq_ok_iff]
      constructor
      · intro readable
        rcases readable with ⟨_ | value, read, rest⟩
        · cases rest
        · rcases Outcome.bind_eq_ok_iff.mp rest with ⟨upper?, upperRead, equal⟩
          cases equal
          exact ⟨operator, value, upper?, rfl, read, upperRead, rfl⟩
      · intro readable
        rcases readable with ⟨other, value, upper?, same, read, upperRead, rfl⟩
        cases same
        exact ⟨some value, read, Outcome.bind_eq_ok_iff.mpr ⟨upper?, upperRead, rfl⟩⟩

theorem readNumber_eq_error_iff {raw : RawFilter} {position : Fin 5} {failure : Failure} :
    raw.readNumber position = .error failure ↔
      ∃ operator, RangeOperator.ofName? raw.operator = some operator ∧
        (raw.value.filterNumber? = .error failure ∨
          (∃ value, raw.value.filterNumber? = .ok (some value)) ∧
            raw.upper? operator = .error failure) := by
  cases named : RangeOperator.ofName? raw.operator with
  | none => simp [readNumber, named]
  | some operator =>
      rw [readNumber_eq_bind position named, Outcome.bind_eq_error_iff]
      constructor
      · intro failed
        rcases failed with failed | ⟨_ | value, read, rest⟩
        · exact ⟨operator, rfl, .inl failed⟩
        · cases rest
        · rcases Outcome.bind_eq_error_iff.mp rest with upperFailed | ⟨upper?, _, impossible⟩
          · exact ⟨operator, rfl, .inr ⟨⟨value, read⟩, upperFailed⟩⟩
          · cases impossible
      · intro failed
        rcases failed with ⟨other, same, failed | ⟨⟨value, read⟩, upperFailed⟩⟩
        · exact .inl failed
        · cases same
          exact .inr ⟨some value, read, Outcome.bind_eq_error_iff.mpr (.inl upperFailed)⟩

theorem slot_of_readNumber {raw : RawFilter} {position : Fin 5} {filter : Filter}
    (kept : raw.readNumber position = .ok (.kept filter)) : filter.slot = .number position := by
  rcases readNumber_eq_kept_iff.mp kept with ⟨operator, value, upper?, _, _, _, rfl⟩
  rfl

theorem slot_of_readDate {raw : RawFilter} {position : Fin 2} {filter : Filter}
    (kept : raw.readDate position = .kept filter) : filter.slot = .date position := by
  rw [readDate] at kept
  split at kept <;> cases kept
  rfl

theorem slot_of_readBoolean {raw : RawFilter} {position : Fin 3} {filter : Filter}
    (kept : raw.readBoolean position = .kept filter) : filter.slot = .boolean position := by
  rw [readBoolean] at kept
  split at kept <;> cases kept
  rfl

/-- A raw filter is kept only as a filter on the slot that it names. -/
theorem slot_of_read {raw : RawFilter} {filter : Filter}
    (kept : raw.read = .ok (.kept filter)) : filter.slot.name = raw.slot := by
  rw [read] at kept
  split at kept
  · cases kept
  · next slot named =>
      rw [← Slot.ofName?_eq_some_iff.mp named]
      split at kept
      · cases kept
      · congr 1
        cases slot with
        | text position => exact slot_of_readText (by simpa using kept)
        | number position => exact slot_of_readNumber kept
        | date position => exact slot_of_readDate (by simpa using kept)
        | boolean position => exact slot_of_readBoolean (by simpa using kept)

end RawFilter

end HybridSearch
