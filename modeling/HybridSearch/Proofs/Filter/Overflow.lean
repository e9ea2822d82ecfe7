import HybridSearch.Proofs.Filter.Compiled
import HybridSearch.Proofs.Number.Overflow

/-! Filters that cannot be read. An integer too large for a binary number is not dropped as other
values are that make no sense: reading the filter fails, and with it the compilation. -/

namespace HybridSearch

/-- An integer without a binary number near it. -/
def Json.IsOversized (value : Json) : Prop :=
  ∃ integer, value = .integer integer ∧ Number.overflowBound ≤ integer.natAbs

theorem Json.filterNumber?_eq_error_iff {value : Json} {failure : Failure} :
    value.filterNumber? = .error failure ↔ failure = .integerTooLarge ∧ value.IsOversized := by
  cases value with
  | integer integer =>
      have bounded := Number.ofInteger?_eq_none_iff integer
      unfold Json.filterNumber?
      cases found : Number.ofInteger? integer with
      | none => simp [found, IsOversized, bounded.mp found, eq_comm]
      | some number =>
          rw [found] at bounded
          simp [found, IsOversized, ← bounded]
  | _ => simp [Json.filterNumber?, IsOversized]

namespace RawFilter

/-- A filter that cannot be read: it asks an operator of numbers of a number slot, and one of the
values that are looked at is oversized. The second one is looked at for a range between two values
whose first one is a number. -/
def Overflows (raw : RawFilter) : Prop :=
  ∃ position operator, Slot.ofName? raw.slot = some (.number position) ∧
    raw.fieldType = FieldType.number.name ∧ RangeOperator.ofName? raw.operator = some operator ∧
      (raw.value.IsOversized ∨
        operator = .between ∧ (∃ number, raw.value.filterNumber? = .ok (some number)) ∧
          raw.valueTo.IsOversized)

theorem upper?_eq_error_iff {raw : RawFilter} {operator : RangeOperator} {failure : Failure} :
    raw.upper? operator = .error failure ↔
      operator = .between ∧ failure = .integerTooLarge ∧ raw.valueTo.IsOversized := by
  rw [upper?]
  split
  · next between => simp [between, Json.filterNumber?_eq_error_iff]
  · next other => simp [other]

theorem read_eq_readNumber {raw : RawFilter} {position : Fin 5}
    (named : Slot.ofName? raw.slot = some (.number position))
    (typed : raw.fieldType = FieldType.number.name) : raw.read = raw.readNumber position := by
  rw [read, named]
  exact if_neg fun different => different typed

/-- Reading a filter fails for an integer that is too large, and for nothing else. -/
theorem read_eq_error_iff {raw : RawFilter} {failure : Failure} :
    raw.read = .error failure ↔ failure = .integerTooLarge ∧ raw.Overflows := by
  constructor
  · intro failed
    rw [read] at failed
    split at failed
    · cases failed
    · next slot named =>
        split at failed
        · cases failed
        · next typed =>
            rw [Decidable.not_not] at typed
            cases slot with
            | number position =>
                rcases readNumber_eq_error_iff.mp failed with
                  ⟨operator, operated, first | ⟨number, second⟩⟩
                · rcases Json.filterNumber?_eq_error_iff.mp first with ⟨rfl, oversized⟩
                  exact ⟨rfl, position, operator, named, typed, operated, .inl oversized⟩
                · rcases upper?_eq_error_iff.mp second with ⟨between, rfl, oversized⟩
                  exact ⟨rfl, position, operator, named, typed, operated,
                    .inr ⟨between, number, oversized⟩⟩
            | text | date | boolean => cases failed
  · intro overflowing
    rcases overflowing with ⟨rfl, position, operator, named, typed, operated, oversized⟩
    rw [read_eq_readNumber named typed, readNumber_eq_error_iff]
    refine ⟨operator, operated, ?_⟩
    rcases oversized with first | ⟨between, number, second⟩
    · exact .inl (Json.filterNumber?_eq_error_iff.mpr ⟨rfl, first⟩)
    · exact .inr ⟨number, upper?_eq_error_iff.mpr ⟨between, rfl, second⟩⟩

theorem exists_read_eq_ok_iff (raw : RawFilter) :
    (∃ reading, raw.read = .ok reading) ↔ ¬raw.Overflows := by
  cases outcome : raw.read with
  | ok reading =>
      refine iff_of_true ⟨reading, rfl⟩ fun overflows => ?_
      rw [read_eq_error_iff.mpr ⟨rfl, overflows⟩] at outcome
      cases outcome
  | error failure =>
      refine iff_of_false (by simp) fun fine => ?_
      exact fine (read_eq_error_iff.mp outcome).2

instance (raw : RawFilter) : Decidable raw.Overflows :=
  match outcome : raw.read with
  | .ok reading => isFalse ((exists_read_eq_ok_iff raw).mp ⟨reading, outcome⟩)
  | .error _ => isTrue (read_eq_error_iff.mp outcome).2

end RawFilter

/-! ## Compiling -/

namespace Compiled

theorem mem_groups_iff {filters : List RawFilter} {raw : RawFilter} :
    (∃ group ∈ groups filters, raw ∈ group) ↔ raw ∈ filters := by
  simp only [groups, List.mem_map, List.mem_eraseDups]
  constructor
  · intro named
    rcases named with ⟨_, ⟨name, _, rfl⟩, member⟩
    exact (List.mem_filter.mp member).1
  · intro member
    exact ⟨_, ⟨raw.slot, ⟨raw, member, rfl⟩, rfl⟩, List.mem_filter.mpr ⟨member, by simp⟩⟩

theorem overflow_of_ofFilters_eq_error {filters : List RawFilter} {failure : Failure}
    (failed : ofFilters filters = .error failure) :
    failure = .integerTooLarge ∧ ∃ raw ∈ filters, raw.Overflows := by
  rw [ofFilters, Outcome.map_eq_error_iff] at failed
  rcases Outcome.exists_of_mapM_eq_error failed with ⟨group, isGroup, groupFailed⟩
  rcases Outcome.exists_of_mapM_eq_error groupFailed with ⟨raw, inGroup, rawFailed⟩
  rcases RawFilter.read_eq_error_iff.mp rawFailed with ⟨tooLarge, overflows⟩
  exact ⟨tooLarge, raw, mem_groups_iff.mp ⟨group, isGroup, inGroup⟩, overflows⟩

theorem exists_ofFilters_eq_ok_iff (filters : List RawFilter) :
    (∃ compiled, ofFilters filters = .ok compiled) ↔ ∀ raw ∈ filters, ¬raw.Overflows := by
  constructor
  · intro finished raw member overflows
    rcases finished with ⟨compiled, returned⟩
    rcases Outcome.map_eq_ok_iff.mp returned with ⟨readings, read, _⟩
    rcases mem_groups_iff.mpr member with ⟨group, isGroup, inGroup⟩
    rcases (Outcome.exists_mapM_eq_ok_iff ..).mp ⟨readings, read⟩ group isGroup with
      ⟨groupReadings, groupRead⟩
    rcases (Outcome.exists_mapM_eq_ok_iff ..).mp ⟨groupReadings, groupRead⟩ raw inGroup with
      rawRead
    exact (raw.exists_read_eq_ok_iff).mp rawRead overflows
  · intro fine
    cases outcome : ofFilters filters with
    | ok compiled => exact ⟨compiled, rfl⟩
    | error failure =>
        rcases (overflow_of_ofFilters_eq_error outcome).2 with ⟨raw, member, overflows⟩
        exact absurd overflows (fine raw member)

theorem ofFilters_eq_error_iff {filters : List RawFilter} {failure : Failure} :
    ofFilters filters = .error failure ↔
      failure = .integerTooLarge ∧ ∃ raw ∈ filters, raw.Overflows := by
  refine ⟨overflow_of_ofFilters_eq_error, ?_⟩
  intro overflowing
  rcases overflowing with ⟨rfl, raw, member, overflows⟩
  cases outcome : ofFilters filters with
  | ok compiled =>
      exact absurd overflows ((exists_ofFilters_eq_ok_iff filters).mp ⟨compiled, outcome⟩ raw member)
  | error failure => rw [(overflow_of_ofFilters_eq_error outcome).1]

theorem exists_ofValues_eq_ok_iff (values : List Json) :
    (∃ compiled, ofValues values = .ok compiled) ↔
      ∀ raw ∈ RawFilter.shaped values, ¬raw.Overflows := by
  rw [← exists_ofFilters_eq_ok_iff, ofValues_eq_map]
  constructor
  · intro succeeded
    rcases succeeded with ⟨compiled, returned⟩
    rcases Outcome.map_eq_ok_iff.mp returned with ⟨known, knownReturned, _⟩
    exact ⟨known, knownReturned⟩
  · intro succeeded
    rcases succeeded with ⟨known, knownReturned⟩
    exact ⟨_, Outcome.map_eq_ok_iff.mpr ⟨known, knownReturned, rfl⟩⟩

end Compiled

end HybridSearch
