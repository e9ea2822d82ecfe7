import HybridSearch.Proofs.Filter.Value
import HybridSearch.Predicate.Compile

/-! The grammar of filters. A filter that can be read is kept exactly when it follows the grammar: it
names a slot and the type of the slot, its operator is one of the type, and its value stands for one
of the values that the type holds. What it is kept as follows from what it says, with one exception: a
range that lacks its second bound is the range of the values equal to the first. -/

namespace HybridSearch

/-! ## Operators and their names -/

theorem TextOperator.mem_all (operator : TextOperator) : operator ∈ all := by
  cases operator <;> decide

theorem TextOperator.ofName?_eq_some_iff {text : String} {operator : TextOperator} :
    ofName? text = some operator ↔ operator.name = text :=
  find?_name_eq_some_iff mem_all (by decide)

theorem BooleanOperator.mem_all (operator : BooleanOperator) : operator ∈ all := by
  cases operator <;> decide

theorem BooleanOperator.ofName?_eq_some_iff {text : String} {operator : BooleanOperator} :
    ofName? text = some operator ↔ operator.name = text :=
  find?_name_eq_some_iff mem_all (by decide)

theorem Comparison.mem_all (comparison : Comparison) : comparison ∈ all := by
  cases comparison <;> decide

theorem Comparison.name_ne_between (comparison : Comparison) : comparison.name ≠ "between" := by
  cases comparison <;> decide

/-- The comparison that stands under a name in the table of comparisons. -/
def Comparison.ofName? (name : String) : Option Comparison :=
  all.find? fun comparison => comparison.name = name

theorem Comparison.ofName?_eq_some_iff {text : String} {comparison : Comparison} :
    ofName? text = some comparison ↔ comparison.name = text :=
  find?_name_eq_some_iff mem_all (by decide)

theorem RangeOperator.mem_all (operator : RangeOperator) : operator ∈ all := by
  cases operator with
  | compare comparison => simp [all, comparison.mem_all]
  | between => simp [all]

theorem RangeOperator.ofName?_eq_some_iff {text : String} {operator : RangeOperator} :
    ofName? text = some operator ↔ operator.name = text :=
  find?_name_eq_some_iff mem_all (by decide)

/-! ## The grammar -/

namespace FieldType

/-- The names of the operators of a type. -/
def operatorNames : FieldType → List String
  | text => TextOperator.all.map TextOperator.name
  | number => RangeOperator.all.map RangeOperator.name
  | date => RangeOperator.all.map RangeOperator.name
  | boolean => BooleanOperator.all.map BooleanOperator.name

/-- What a filter on a slot of a type may have for its value. -/
def Accepts (fieldType : FieldType) (value : Json) : Prop :=
  match fieldType with
  | text => value ≠ .null
  | number => ∃ number, value.StandsForNumber number
  | date => ∃ date, value.StandsForDate date
  | boolean => True

end FieldType

/-- A raw filter follows the grammar: its slot is one of the slots, its type and its operator go with
the slot, and so does its value. -/
def RawFilter.IsGrammatical (raw : RawFilter) : Prop :=
  ∃ slot : Slot, raw.slot = slot.name ∧ raw.fieldType = slot.fieldType.name ∧
    raw.operator ∈ slot.fieldType.operatorNames ∧ slot.fieldType.Accepts raw.value

/-- A range follows from the operator and the values of a raw filter. It lies between two values if
the operator says so and both values can be used. Otherwise it is a comparison with the first value:
the one that the operator says, or equality if only the second value is at fault. -/
def Range.Follows {α : Type} (stands : Json → α → Prop) (raw : RawFilter) : Range α → Prop
  | between lower upper => raw.operator = RangeOperator.between.name ∧
      stands raw.value lower ∧ stands raw.valueTo upper
  | compare comparison value => stands raw.value value ∧
      (raw.operator = comparison.name ∨ comparison = .equal ∧
        raw.operator = RangeOperator.between.name ∧ ∀ upper, ¬stands raw.valueTo upper)

/-- A filter follows from what a raw filter says. -/
def Filter.Follows (raw : RawFilter) : Filter → Prop
  | text _ operator value => raw.operator = operator.name ∧ value = raw.value.text
  | number _ range => range.Follows Json.StandsForNumber raw
  | date _ range => range.Follows Json.StandsForDate raw
  | boolean _ operator value => raw.operator = operator.name ∧ value = raw.value.filterBoolean

namespace RawFilter

/-- A raw filter read as one on a slot, whatever slot it names. -/
def readOn (raw : RawFilter) : Slot → Except Failure Reading
  | .text position => .ok (raw.readText position)
  | .number position => raw.readNumber position
  | .date position => .ok (raw.readDate position)
  | .boolean position => .ok (raw.readBoolean position)

theorem read_eq_readOn {raw : RawFilter} {slot : Slot} (named : raw.slot = slot.name)
    (typed : raw.fieldType = slot.fieldType.name) : raw.read = raw.readOn slot := by
  rw [read, Slot.ofName?_eq_some_iff.mpr named.symm]
  refine (if_neg (not_not_intro typed)).trans ?_
  cases slot <;> rfl

/-- A raw filter is kept only on a slot that it names with its type. -/
theorem exists_readOn_of_kept {raw : RawFilter} {filter : Filter}
    (kept : raw.read = .ok (.kept filter)) : ∃ slot : Slot, raw.slot = slot.name ∧
      raw.fieldType = slot.fieldType.name ∧ raw.readOn slot = .ok (.kept filter) := by
  have read := kept
  rw [RawFilter.read] at read
  split at read
  · cases read
  · next slot named =>
      split at read
      · cases read
      · next typed =>
          have sameName := (Slot.ofName?_eq_some_iff.mp named).symm
          have sameType := Decidable.not_not.mp typed
          exact ⟨slot, sameName, sameType, (read_eq_readOn sameName sameType).symm.trans kept⟩

theorem readText_eq_kept_iff {raw : RawFilter} {position : Fin 7} {filter : Filter} :
    raw.readText position = .kept filter ↔
      ∃ operator : TextOperator, operator.name = raw.operator ∧ raw.value ≠ .null ∧
        Filter.text position operator raw.value.text = filter := by
  simp only [← TextOperator.ofName?_eq_some_iff]
  rw [readText]
  split
  · next unnamed => simp [unnamed]
  · next absent => simp [absent]
  · next value operator named present =>
      simp only [named, Option.some.injEq, Reading.kept.injEq]
      constructor
      · rintro rfl
        exact ⟨operator, rfl, present, rfl⟩
      · rintro ⟨_, rfl, _, rfl⟩
        rfl

theorem readDate_eq_kept_iff {raw : RawFilter} {position : Fin 2} {filter : Filter} :
    raw.readDate position = .kept filter ↔
      ∃ (operator : RangeOperator) (date : Date), operator.name = raw.operator ∧
        raw.value.StandsForDate date ∧
        Filter.date position (operator.range date raw.valueTo.filterDate?) = filter := by
  simp only [← RangeOperator.ofName?_eq_some_iff, ← Json.filterDate?_eq_some_iff]
  rw [readDate]
  split <;> simp_all

theorem readBoolean_eq_kept_iff {raw : RawFilter} {position : Fin 3} {filter : Filter} :
    raw.readBoolean position = .kept filter ↔
      ∃ operator : BooleanOperator, operator.name = raw.operator ∧
        Filter.boolean position operator raw.value.filterBoolean = filter := by
  simp only [← BooleanOperator.ofName?_eq_some_iff]
  rw [readBoolean]
  split <;> simp_all

/-- The range that is made of an operator and two values follows from them. -/
theorem follows_range {α : Type} {stands : Json → α → Prop} {raw : RawFilter}
    {operator : RangeOperator} {value : α} {upper? : Option α}
    (named : operator.name = raw.operator) (first : stands raw.value value)
    (second : operator = .between → ∀ upper, upper? = some upper ↔ stands raw.valueTo upper) :
    (operator.range value upper?).Follows stands raw := by
  cases operator with
  | compare comparison => exact ⟨first, .inl named.symm⟩
  | between =>
      cases upper? with
      | some upper => exact ⟨named.symm, first, (second rfl upper).mp rfl⟩
      | none =>
          have unusable (upper : α) : ¬stands raw.valueTo upper := fun stands =>
            nomatch (second rfl upper).mpr stands
          exact ⟨first, .inr ⟨rfl, named.symm, unusable⟩⟩

/-- A filter that is kept on a slot is on that slot and follows from the raw filter. -/
theorem follows_of_readOn {raw : RawFilter} {slot : Slot} {filter : Filter}
    (kept : raw.readOn slot = .ok (.kept filter)) : filter.slot = slot ∧ filter.Follows raw := by
  cases slot with
  | text position =>
      rcases readText_eq_kept_iff.mp (Except.ok.inj kept) with ⟨operator, named, _, rfl⟩
      exact ⟨rfl, named.symm, rfl⟩
  | number position =>
      rcases readNumber_eq_kept_iff.mp kept with
        ⟨operator, value, upper?, named, first, second, rfl⟩
      refine ⟨rfl, follows_range (RangeOperator.ofName?_eq_some_iff.mp named)
        (Json.filterNumber?_eq_some_iff.mp first) fun between upper => ?_⟩
      rw [RawFilter.upper?, if_pos between] at second
      rw [← Json.filterNumber?_eq_some_iff, second, Except.ok.injEq]
  | date position =>
      rcases readDate_eq_kept_iff.mp (Except.ok.inj kept) with ⟨operator, date, named, first, rfl⟩
      exact ⟨rfl, follows_range named first fun _ upper => Json.filterDate?_eq_some_iff⟩
  | boolean position =>
      rcases readBoolean_eq_kept_iff.mp (Except.ok.inj kept) with ⟨operator, named, rfl⟩
      exact ⟨rfl, named.symm, rfl⟩

theorem isGrammatical_of_kept {raw : RawFilter} {filter : Filter}
    (kept : raw.read = .ok (.kept filter)) : raw.IsGrammatical := by
  rcases exists_readOn_of_kept kept with ⟨slot, named, typed, keptOn⟩
  refine ⟨slot, named, typed, ?_⟩
  cases slot with
  | text position =>
      rcases readText_eq_kept_iff.mp (Except.ok.inj keptOn) with ⟨operator, operated, present, _⟩
      exact ⟨operated ▸ List.mem_map_of_mem operator.mem_all, present⟩
  | number position =>
      rcases readNumber_eq_kept_iff.mp keptOn with ⟨operator, value, _, operated, first, _, _⟩
      rw [RangeOperator.ofName?_eq_some_iff] at operated
      exact ⟨operated ▸ List.mem_map_of_mem operator.mem_all, value,
        Json.filterNumber?_eq_some_iff.mp first⟩
  | date position =>
      rcases readDate_eq_kept_iff.mp (Except.ok.inj keptOn) with
        ⟨operator, date, operated, first, _⟩
      exact ⟨operated ▸ List.mem_map_of_mem operator.mem_all, date, first⟩
  | boolean position =>
      rcases readBoolean_eq_kept_iff.mp (Except.ok.inj keptOn) with ⟨operator, operated, _⟩
      exact ⟨operated ▸ List.mem_map_of_mem operator.mem_all, trivial⟩

/-- What can be read on a slot and has an operator and a value that go with the slot is kept. -/
theorem exists_kept_of_accepts {raw : RawFilter} {slot : Slot} {reading : Reading}
    (returned : raw.readOn slot = .ok reading)
    (operated : raw.operator ∈ slot.fieldType.operatorNames)
    (accepted : slot.fieldType.Accepts raw.value) : ∃ filter, reading = .kept filter := by
  cases slot with
  | text position =>
      rcases List.mem_map.mp operated with ⟨operator, _, named⟩
      exact ⟨_, (Except.ok.inj returned).symm.trans
        (readText_eq_kept_iff.mpr ⟨operator, named, accepted, rfl⟩)⟩
  | number position =>
      rcases List.mem_map.mp operated with ⟨operator, _, named⟩
      rcases accepted with ⟨value, stands⟩
      change raw.readNumber position = .ok reading at returned
      rw [readNumber_eq_bind position (RangeOperator.ofName?_eq_some_iff.mpr named),
        Json.filterNumber?_eq_some_iff.mpr stands] at returned
      rcases Outcome.bind_eq_ok_iff.mp returned with ⟨_, read, rest⟩
      cases read
      rcases Outcome.bind_eq_ok_iff.mp rest with ⟨upper?, _, kept⟩
      exact ⟨_, (Except.ok.inj kept).symm⟩
  | date position =>
      rcases List.mem_map.mp operated with ⟨operator, _, named⟩
      rcases accepted with ⟨date, stands⟩
      exact ⟨_, (Except.ok.inj returned).symm.trans
        (readDate_eq_kept_iff.mpr ⟨operator, date, named, stands, rfl⟩)⟩
  | boolean position =>
      rcases List.mem_map.mp operated with ⟨operator, _, named⟩
      exact ⟨_, (Except.ok.inj returned).symm.trans
        (readBoolean_eq_kept_iff.mpr ⟨operator, named, rfl⟩)⟩

end RawFilter

/-! ## Conditions -/

/-- The range that is made of the name of an operator, a value and a second one that may be missing.
Between two values takes both, and any other name is looked up in the table of comparisons. There is
none for a name that is not in the table, nor for a missing second value. -/
def Range.ofParts? {α : Type} (operatorName : String) (value : α) (upper? : Option α) :
    Option (Range α) :=
  if operatorName = RangeOperator.between.name then upper?.map (Range.between value)
  else (Comparison.ofName? operatorName).map fun comparison => .compare comparison value

theorem Range.ofParts?_parts {α : Type} (range : Range α) :
    ofParts? range.operator.name range.bound range.upper? = some range := by
  cases range with
  | compare comparison value =>
      have found : Comparison.ofName? comparison.name = some comparison :=
        Comparison.ofName?_eq_some_iff.mpr rfl
      simp [ofParts?, operator, RangeOperator.name, bound, comparison.name_ne_between, found]
  | between lower upper => rfl

/-- A range has a second bound exactly when its operator lies between two values. -/
theorem Range.isSome_upper?_iff {α : Type} (range : Range α) :
    range.upper?.isSome = true ↔ range.operator.name = RangeOperator.between.name := by
  cases range with
  | compare comparison value =>
      exact iff_of_false Bool.false_ne_true comparison.name_ne_between
  | between lower upper => exact iff_of_true rfl rfl

namespace Filter

/-- The condition that is built of the parts of a filter, if it can be. -/
def condition? : Filter → Option Predicate
  | text position operator value => some (operator.predicate position value)
  | number position range =>
      (Range.ofParts? range.operator.name range.bound range.upper?).map (.number position)
  | date position range =>
      (Range.ofParts? range.operator.name range.bound range.upper?).map (.date position)
  | boolean position operator value => some (.boolean position (operator = .notEqual) value)

/-- Building the condition of a filter never fails. -/
theorem condition?_eq_predicate (filter : Filter) : filter.condition? = some filter.predicate := by
  cases filter <;> simp [condition?, predicate, Range.ofParts?_parts]

/-- Whether a filter has a second value. -/
def hasUpper : Filter → Bool
  | number _ range => range.upper?.isSome
  | date _ range => range.upper?.isSome
  | _ => false

/-- The numbers of a filter. -/
def numbers : Filter → List Float
  | number _ range => range.bound :: range.upper?.toList
  | _ => []

theorem hasUpper_iff (filter : Filter) :
    filter.hasUpper = true ↔ filter.operatorName = RangeOperator.between.name := by
  cases filter with
  | text _ operator =>
      refine iff_of_false Bool.false_ne_true ?_
      cases operator <;> simp [operatorName, TextOperator.name, RangeOperator.name]
  | number _ range => exact range.isSome_upper?_iff
  | date _ range => exact range.isSome_upper?_iff
  | boolean _ operator =>
      refine iff_of_false Bool.false_ne_true ?_
      cases operator <;> simp [operatorName, BooleanOperator.name, RangeOperator.name]

theorem Follows.isFinite {raw : RawFilter} {filter : Filter} (follows : filter.Follows raw) :
    ∀ number ∈ filter.numbers, number.isFinite = true := by
  cases filter with
  | number _ range =>
      cases range with
      | compare comparison value =>
          simpa [numbers, Range.bound, Range.upper?] using follows.1.isFinite
      | between lower upper =>
          simpa [numbers, Range.bound, Range.upper?] using
            ⟨follows.2.1.isFinite, follows.2.2.isFinite⟩
  | _ => simp [numbers]

end Filter

namespace RawFilter

/-- A filter that can be read is kept exactly when it follows the grammar. It is kept on the slot that
it names and follows from what it says, has a second value exactly when its operator lies between two
values, and has no number that is not finite; and a condition can be built of it. -/
theorem kept_iff_grammatical (raw : RawFilter) (reading : Reading)
    (returned : raw.read = .ok reading) :
    ((∃ filter, reading = .kept filter) ↔ raw.IsGrammatical) ∧
    ∀ filter, reading = .kept filter →
      filter.slot.name = raw.slot ∧ filter.slot.fieldType.name = raw.fieldType ∧
      filter.Follows raw ∧
      (filter.hasUpper = true ↔ filter.operatorName = RangeOperator.between.name) ∧
      (∀ number ∈ filter.numbers, number.isFinite = true) ∧
      filter.condition? = some filter.predicate := by
  constructor
  · constructor
    · rintro ⟨filter, rfl⟩
      exact isGrammatical_of_kept returned
    · rintro ⟨slot, named, typed, operated, accepted⟩
      exact exists_kept_of_accepts ((read_eq_readOn named typed).symm.trans returned) operated accepted
  · rintro filter rfl
    rcases exists_readOn_of_kept returned with ⟨slot, named, typed, keptOn⟩
    rcases follows_of_readOn keptOn with ⟨rfl, follows⟩
    exact ⟨named.symm, typed.symm, follows, filter.hasUpper_iff, follows.isFinite,
      filter.condition?_eq_predicate⟩

/-- A range between an integer and a value that is no number. -/
def halfOpenRange : RawFilter where
  slot := "number2"
  fieldType := "number"
  operator := "between"
  value := .integer 5
  valueTo := .string "many"

/-- A range without a second number is kept as the range of the values equal to the first. -/
theorem halfOpenRange_kept :
    halfOpenRange.read = .ok (.kept (.number 1 (.compare .equal 5.0))) ∧
      halfOpenRange.IsGrammatical ∧ Json.StandsForNumber (.integer 5) 5.0 ∧
      ∀ upper, ¬Json.StandsForNumber (.string "many") upper := by
  have returned : halfOpenRange.read = .ok (.kept (.number 1 (.compare .equal 5.0))) := by rfl
  rcases kept_iff_grammatical halfOpenRange _ returned with ⟨grammatical, follows⟩
  rcases (follows _ rfl).2.2.1 with ⟨stands, impossible | ⟨_, _, unusable⟩⟩
  · exact absurd impossible (by decide)
  · exact ⟨returned, grammatical.mp ⟨_, rfl⟩, stands, unusable⟩

end RawFilter

end HybridSearch
