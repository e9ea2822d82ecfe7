import HybridSearch.Proofs.Calendar.Day
import HybridSearch.Proofs.Filter.Value

/-! The dates of filters are given in one form only. A value stands for a day when its text spells the
day, and nothing is lost when the day is written again. -/

namespace HybridSearch.Json

open Std.Time (PlainDate)

variable {value : Json}

theorem exists_filterDate?_iff :
    (∃ date, value.filterDate? = some date) ↔
      ∃ day : PlainDate, (1 ≤ day.year.toInt ∧ day.year.toInt ≤ 9999) ∧
        Spells value.text.toList day := by
  constructor
  · intro found
    rcases found with ⟨date, read⟩
    refine ⟨date.plain, ⟨Int.ofNat_le.mpr date.year_pos, Int.ofNat_le.mpr date.year_le⟩, ?_⟩
    exact Date.spells_plain_iff.mpr (filterDate?_eq_some_iff_text.mp read)
  · intro spelled
    rcases spelled with ⟨day, ⟨first, last⟩, spells⟩
    rcases Date.exists_plain_eq first last with ⟨date, rfl⟩
    exact ⟨date, filterDate?_eq_some_iff_text.mpr (Date.spells_plain_iff.mp spells)⟩

theorem length_of_filterDate? {date : Date} (read : value.filterDate? = some date) :
    value.text.toList.length = 10 := by
  rw [filterDate?_eq_some_iff_text.mp read, Date.length_text]

/-- No date is read where a character is neither one of the digits `0` to `9` nor a dash. -/
theorem filterDate?_eq_none_of_mem {character : Char} (member : character ∈ value.text.toList)
    (notDigit : character.isDigit = false) (notDash : character ≠ '-') :
    value.filterDate? = none := by
  apply Option.eq_none_iff_forall_ne_some.mpr
  intro date read
  exact ne_date_text ⟨character, member, notDigit, notDash⟩ (filterDate?_eq_some_iff_text.mp read)

/-- No date is read where anything stands before one or behind it. -/
theorem filterDate?_eq_none_of_surrounded {date : Date} {front back : List Char}
    (surrounded : value.text.toList = front ++ date.text ++ back) (more : front ++ back ≠ []) :
    value.filterDate? = none := by
  apply Option.eq_none_iff_forall_ne_some.mpr
  intro other read
  have places := length_of_filterDate? read
  have added := List.length_pos_iff.mpr more
  rw [surrounded, List.length_append, List.length_append, Date.length_text] at places
  rw [List.length_append] at added
  omega

/-- A value is read as a date exactly when its text spells a day of the years 1 to 9999, and the date
is written with that text again. Other characters are not read past, be they digits of another script,
blanks or the end of a line, and neither is a time of the day. -/
theorem date_canonical (value : Json) :
    ((∃ date, value.filterDate? = some date) ↔
      ∃ day : PlainDate, (1 ≤ day.year.toInt ∧ day.year.toInt ≤ 9999) ∧
        Spells value.text.toList day) ∧
    (∀ date, value.filterDate? = some date →
      Spells value.text.toList date.plain ∧ date.text = value.text.toList) ∧
    (∀ character ∈ value.text.toList, character.isDigit = false → character ≠ '-' →
      value.filterDate? = none) ∧
    (∀ (date : Date) (front back : List Char), value.text.toList = front ++ date.text ++ back →
      front ++ back ≠ [] → value.filterDate? = none) := by
  refine ⟨exists_filterDate?_iff, ?_, ?_, ?_⟩
  · intro date read
    have written := filterDate?_eq_some_iff_text.mp read
    exact ⟨Date.spells_plain_iff.mpr written, written.symm⟩
  · intro character member notDigit notDash
    exact filterDate?_eq_none_of_mem member notDigit notDash
  · intro date front back surrounded more
    exact filterDate?_eq_none_of_surrounded surrounded more

example : (string "2000-02-29").filterDate? = Date.of? 2000 2 29 := by decide

example : (string "1900-02-29").filterDate? = none := by decide

end HybridSearch.Json
