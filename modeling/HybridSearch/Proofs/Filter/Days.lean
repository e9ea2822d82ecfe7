import HybridSearch.Proofs.Filter.Overflow
import HybridSearch.Proofs.Filter.Value

/-! Compiled filters mean what the filters say, as far as the store takes timestamps to lie on the days
that they are written with. It works to the thousandth of a second, so the last moments of a day may
lie on the next one, or on none. Tags for which they do are told apart from others by the filters that
ask for their own days. -/

namespace HybridSearch.Compiled

/-! ## Asking for one day -/

/-- A filter that asks for one day on a date slot. -/
def dayFilter (position : Fin 2) (date : Date) : RawFilter where
  slot := (Slot.date position).name
  fieldType := "date"
  operator := "eq"
  value := .string (String.ofList date.text)
  valueTo := .null

/-- The filter as a caller sends it. -/
def dayValue (position : Fin 2) (date : Date) : Json :=
  .object [("tagSlot", .string (Slot.date position).name), ("fieldType", .string "date"),
    ("value", .string (String.ofList date.text))]

variable (position : Fin 2) (date : Date)

theorem shaped_dayValue : RawFilter.shaped [dayValue position date] = [dayFilter position date] :=
  rfl

theorem read_dayFilter :
    (dayFilter position date).read = .ok (.kept (.date position (.compare .equal date))) := by
  have day : (Json.string (String.ofList date.text)).filterDate? = some date :=
    Json.filterDate?_eq_some_iff_text.mpr String.toList_ofList
  simp only [dayFilter, RawFilter.read, Slot.ofName?_name, RawFilter.readDate, day]
  rfl

theorem keptFrom_dayFilter_iff {filter : Filter} :
    filter.KeptFrom [dayFilter position date] ↔ filter = .date position (.compare .equal date) := by
  rw [Filter.KeptFrom]
  constructor
  · intro kept
    rcases kept with ⟨raw, member, read⟩
    rw [List.mem_singleton.mp member, read_dayFilter] at read
    cases read
    rfl
  · intro same
    exact ⟨_, List.mem_singleton.mpr rfl, same ▸ read_dayFilter position date⟩

theorem exists_ofValues_dayValue : ∃ compiled, ofValues [dayValue position date] = .ok compiled := by
  apply (exists_ofValues_eq_ok_iff _).mpr
  rw [shaped_dayValue, List.forall_mem_singleton, ← RawFilter.exists_read_eq_ok_iff]
  exact ⟨_, read_dayFilter position date⟩

variable {position date}

/-- Of the filter for one day all that can be asked is that it is satisfied itself. -/
theorem forall_slot_dayFilter_iff {satisfied : Filter → Prop} :
    (∀ slot : Slot,
      (∃ filter : Filter, filter.KeptFrom [dayFilter position date] ∧ filter.slot = slot) →
        ∃ filter : Filter, filter.KeptFrom [dayFilter position date] ∧ filter.slot = slot ∧
          satisfied filter) ↔ satisfied (.date position (.compare .equal date)) := by
  simp [keptFrom_dayFilter_iff]

/-! ## All filters -/

variable {dayOf? : Timestamp → Option Date} {tags : Tags}

/-- When the filters for a day find the tags that hold it, the days are kept. -/
theorem keepDays_of_clauses_hold_iff
    (meant : ∀ values compiled, ofValues values = .ok compiled →
      ((∀ clause ∈ compiled.clauses, clause.holds dayOf? tags = some true) ↔
        tags.SatisfyAsWritten (RawFilter.shaped values))) : tags.KeepDays dayOf? := by
  intro position stored filled
  rcases exists_ofValues_dayValue position stored.date with ⟨compiled, returned⟩
  have same := (meant _ compiled returned).symm.trans (ofValues_holds_iff returned dayOf? tags)
  rw [shaped_dayValue, Tags.SatisfyAsWritten, Tags.Satisfy, forall_slot_dayFilter_iff, Tags.Satisfy,
    forall_slot_dayFilter_iff] at same
  rcases same.mp ⟨stored, stored.date, filled, rfl, rfl⟩ with ⟨other, day, alsoFilled, lies, equal⟩
  cases filled.symm.trans alsoFilled
  cases equal
  exact lies

/-- Compiled filters mean what the filters say, on whatever days the store takes timestamps to lie:
whatever some values are, the clauses that they are compiled to are true of exactly the tags that
satisfy, on each slot with a filter that is kept, one of the filters on it. For all filters their days
can be read as the ones that the timestamps are written with exactly when the store keeps the days of
the tags. A store that works to the nearest thousandth of a second does so unless one of them reaches a
midnight that lies behind the calendar, or behind a late day of a month and days are renewed. -/
theorem clauses_hold_iff_satisfy (dayOf? : Timestamp → Option Date) (tags : Tags) :
    (∀ values compiled, ofValues values = .ok compiled →
      ((∀ clause ∈ compiled.clauses, clause.holds dayOf? tags = some true) ↔
        tags.Satisfy dayOf? (RawFilter.shaped values))) ∧
    (tags.KeepDays dayOf? ↔ ∀ values compiled, ofValues values = .ok compiled →
      ((∀ clause ∈ compiled.clauses, clause.holds dayOf? tags = some true) ↔
        tags.SatisfyAsWritten (RawFilter.shaped values))) ∧
    (∀ renews, tags.KeepDays (Timestamp.day? renews) ↔
      ∀ position stored, tags.dates.get position = some stored → stored.reachesMidnight = true →
        stored.date.next?.isSome = true ∧ (renews = true → stored.date.day ≤ 28)) := by
  refine ⟨?_, ⟨?_, keepDays_of_clauses_hold_iff⟩, ?_⟩
  · intro values compiled returned
    exact ofValues_holds_iff returned dayOf? tags
  · intro keep values compiled returned
    rw [keep.satisfyAsWritten_iff]
    exact ofValues_holds_iff returned dayOf? tags
  · intro renews
    simp only [Tags.KeepDays, Timestamp.day?_eq_date_iff]

/-- Filters on three slots, mixed with each other, with a value that is no filter, and with a filter
that is dropped. -/
def datedValues : List Json :=
  let filter (slot fieldType operator : String) (value : Json) : Json :=
    .object [("tagSlot", .string slot), ("fieldType", .string fieldType),
      ("operator", .string operator), ("value", value)]
  [filter "tag7" "text" "eq" (.string "Invoice"), .null,
    filter "boolean3" "boolean" "neq" (.bool true), filter "tag7" "text" "gt" (.string "a"),
    filter "date2" "date" "lte" (.string "2023-12-31"),
    filter "tag7" "text" "starts_with" (.string "A_")]

/-- The last day of a year. -/
def yearEnd : Date :=
  ⟨2023, 12, 31, by decide, by decide, by decide, by decide⟩

/-- The last day of the calendar. -/
def lastDay : Date :=
  ⟨9999, 12, 31, by decide, by decide, by decide, by decide⟩

/-- The clauses of the filters on the three slots. -/
def datedClauses : Compiled where
  clauses :=
    [⟨.textEqual (Fin.last 6) false "invoice",
        [.textLike (Fin.last 6) false ⟨false, ['a', '/', '_'], true⟩]⟩,
      ⟨.boolean (Fin.last 2) true true, []⟩,
      ⟨.date (Fin.last 1) (.compare .lessOrEqual yearEnd), []⟩]
  dropped := [.malformed, .operator]

/-- Tags that satisfy the first filter on one slot and the only ones on the others. -/
def datedTags : Tags :=
  { Tags.empty with
    texts := Tags.empty.texts.set 6 (some "INVOICE")
    dates := Tags.empty.dates.set 1 (some ⟨yearEnd, 23, 59, 59, 999499⟩)
    booleans := Tags.empty.booleans.set 2 (some false) }

/-- Before the last half of a thousandth of a second a day is kept, also where late days are renewed. -/
theorem datedTags_satisfy : ofValues datedValues = .ok datedClauses ∧
    datedTags.KeepDays (Timestamp.day? true) ∧
    (∀ clause ∈ datedClauses.clauses, clause.holds (Timestamp.day? true) datedTags = some true) ∧
    datedTags.SatisfyAsWritten (RawFilter.shaped datedValues) := by
  have returned : ofValues datedValues = .ok datedClauses := by rfl
  have exact := clauses_hold_iff_satisfy (Timestamp.day? true) datedTags
  have keep : datedTags.KeepDays (Timestamp.day? true) := by
    have early : ∀ position, ∀ stored ∈ (datedTags.dates.get position).toList,
        stored.reachesMidnight = false := by decide
    apply (exact.2.2 true).mpr
    intro position stored filled reaches
    cases reaches.symm.trans (early position stored (Option.mem_toList.mpr filled))
  have holds : ∀ clause ∈ datedClauses.clauses,
      clause.holds (Timestamp.day? true) datedTags = some true := by decide
  exact ⟨returned, keep, holds,
    (exact.2.1.mp keep datedValues datedClauses returned).mp holds⟩

/-- Tags with the last millionth of a second of a day in both date slots. -/
def lateTags (date : Date) : Tags :=
  { Tags.empty with dates := Vector.replicate 2 (some ⟨date, 23, 59, 59, 999999⟩) }

/-- The day that a timestamp is written with does not always count. Neither kind of release keeps the
last day of the calendar, and one that renews days does not keep the last day of a year either. -/
theorem lateTags_passed_over :
    (¬∀ values compiled, ofValues values = .ok compiled →
      ((∀ clause ∈ compiled.clauses,
        clause.holds (Timestamp.day? false) (lateTags lastDay) = some true) ↔
          (lateTags lastDay).SatisfyAsWritten (RawFilter.shaped values))) ∧
    ¬∀ values compiled, ofValues values = .ok compiled →
      ((∀ clause ∈ compiled.clauses,
        clause.holds (Timestamp.day? true) (lateTags yearEnd) = some true) ↔
          (lateTags yearEnd).SatisfyAsWritten (RawFilter.shaped values)) := by
  constructor
  · intro meant
    have kept := keepDays_of_clauses_hold_iff meant 0 ⟨lastDay, 23, 59, 59, 999999⟩ rfl
    have none : Timestamp.day? false ⟨lastDay, 23, 59, 59, 999999⟩ = none := by decide
    cases none.symm.trans kept
  · intro meant
    have kept := keepDays_of_clauses_hold_iff meant 0 ⟨yearEnd, 23, 59, 59, 999999⟩ rfl
    have moved : ¬Timestamp.day? true ⟨yearEnd, 23, 59, 59, 999999⟩ = some yearEnd := by decide
    exact moved kept

end HybridSearch.Compiled
