import HybridSearch.Proofs.Calendar
import Mathlib.Tactic.DeprecateTo
import Mathlib.Tactic.IntervalCases

/-! The dates are the days of the years 1 to 9999 of the Gregorian calendar, carried back before its
introduction, as the standard library has it in `Std.Time`, which comes with the import of
`Mathlib.Tactic.DeprecateTo`. Their written forms name these days digit by digit. -/

namespace HybridSearch

open Std.Time (PlainDate)

theorem isLeap_eq_isLeapYear (year : Nat) :
    Std.Time.Year.Offset.isLeap (year : Int) = isLeapYear year := by
  have remainder (divisor : Nat) : (year : Int).tmod divisor = 0 ↔ year % divisor = 0 := by
    rw [← Int.ofNat_tmod, Int.natCast_eq_zero]
  have fourth := remainder 4
  have hundredth := remainder 100
  have fourHundredth := remainder 400
  simp only [Nat.cast_ofNat] at fourth hundredth fourHundredth
  simp [Std.Time.Year.Offset.isLeap, isLeapYear, Std.Time.Year.Offset.toInt, fourth, hundredth,
    fourHundredth]

theorem days_eq_daysInMonth (year : Nat) (month : Std.Time.Month.Ordinal) :
    (Std.Time.Month.Ordinal.days (isLeapYear year) month).val =
      daysInMonth year month.val.toNat := by
  rcases month with ⟨month, bounds⟩
  have first : 1 ≤ month := bounds.1
  have last : month ≤ 12 := bounds.2
  unfold daysInMonth
  cases isLeapYear year <;> interval_cases month <;> rfl

/-- The calendar has a day exactly when its month has it. -/
theorem valid_iff_le_daysInMonth {year : Nat} {month : Std.Time.Month.Ordinal}
    {day : Std.Time.Day.Ordinal} :
    Std.Time.Year.Offset.Valid (year : Int) month day ↔
      day.val ≤ daysInMonth year month.val.toNat := by
  rw [← days_eq_daysInMonth, ← isLeap_eq_isLeapYear]
  exact Iff.rfl

namespace Date

theorem month_pos (date : Date) : 1 ≤ date.month := by
  have real := Nat.lt_of_lt_of_le date.day_pos date.day_le
  rcases Nat.eq_zero_or_pos date.month with none | pos
  · rw [none] at real
    cases real
  · exact pos

/-- The day of the calendar that a date names. -/
def plain (date : Date) : PlainDate where
  year := (date.year : Int)
  month := .mk date.month ⟨Int.ofNat_le.mpr date.month_pos, Int.ofNat_le.mpr date.month_le⟩
  day := .mk date.day ⟨Int.ofNat_le.mpr date.day_pos, Int.ofNat_le.mpr date.day_le_thirtyOne⟩
  valid := valid_iff_le_daysInMonth.mpr (Int.ofNat_le.mpr date.day_le)

/-- Every day of the years 1 to 9999 is that of a date. -/
theorem exists_plain_eq {day : PlainDate} (first : 1 ≤ day.year.toInt)
    (last : day.year.toInt ≤ 9999) : ∃ date : Date, date.plain = day := by
  rcases day with ⟨year, ⟨month, monthBounds⟩, ⟨dayOfMonth, dayBounds⟩, valid⟩
  have monthFirst : 1 ≤ month := monthBounds.1
  have dayFirst : 1 ≤ dayOfMonth := dayBounds.1
  rcases Int.eq_ofNat_of_zero_le (Int.le_trans Int.one_nonneg first) with ⟨years, rfl⟩
  rcases Int.eq_ofNat_of_zero_le (Int.le_trans Int.one_nonneg monthFirst) with ⟨months, rfl⟩
  rcases Int.eq_ofNat_of_zero_le (Int.le_trans Int.one_nonneg dayFirst) with ⟨days, rfl⟩
  exact ⟨⟨years, months, days, Int.ofNat_le.mp first, Int.ofNat_le.mp last, Int.ofNat_le.mp dayFirst,
    Int.ofNat_le.mp (valid_iff_le_daysInMonth.mp valid)⟩, rfl⟩

end Date

/-- A text spells a day of the calendar: with four of the digits `0` to `9` its year, with two its
month and with two the day of the month, and with dashes between them. -/
def Spells (characters : List Char) (day : PlainDate) : Prop :=
  ∃ y₁ y₂ y₃ y₄ m₁ m₂ d₁ d₂ : Fin 10,
    characters =
      [y₁.val.digitChar, y₂.val.digitChar, y₃.val.digitChar, y₄.val.digitChar, '-',
        m₁.val.digitChar, m₂.val.digitChar, '-', d₁.val.digitChar, d₂.val.digitChar] ∧
    day.year.toInt = 1000 * y₁ + 100 * y₂ + 10 * y₃ + y₄ ∧
    day.month.val = 10 * m₁ + m₂ ∧
    day.day.val = 10 * d₁ + d₂

theorem paddedDigits_two {value : Nat} (small : value < 100) :
    paddedDigits 2 value = [(value / 10).digitChar, (value % 10).digitChar] := by
  rw [paddedDigits_succ Nat.one_pos, paddedDigits_one (by omega)]
  rfl

theorem paddedDigits_four {value : Nat} (small : value < 10000) :
    paddedDigits 4 value =
      [(value / 1000).digitChar, (value / 100 % 10).digitChar, (value / 10 % 10).digitChar,
        (value % 10).digitChar] := by
  rw [paddedDigits_succ (by decide), paddedDigits_succ (by decide), paddedDigits_two (by omega),
    Nat.div_div_eq_div_mul value 10 10, Nat.div_div_eq_div_mul]
  rfl

namespace Date

/-- The digits of the written form of a date. -/
theorem text_eq_digits (date : Date) :
    date.text =
      [(date.year / 1000).digitChar, (date.year / 100 % 10).digitChar,
        (date.year / 10 % 10).digitChar, (date.year % 10).digitChar, '-',
        (date.month / 10).digitChar, (date.month % 10).digitChar, '-',
        (date.day / 10).digitChar, (date.day % 10).digitChar] := by
  have yearSmall : date.year < 10000 := Nat.lt_succ_of_le date.year_le
  have monthSmall : date.month < 100 := Nat.lt_of_le_of_lt date.month_le (by decide)
  have daySmall : date.day < 100 := Nat.lt_of_le_of_lt date.day_le_thirtyOne (by decide)
  rw [text, paddedDigits_four yearSmall, paddedDigits_two monthSmall, paddedDigits_two daySmall]
  rfl

theorem length_text (date : Date) : date.text.length = 10 := by
  rw [text_eq_digits]
  rfl

/-- A text spells the day of a date exactly when it is the written form of the date. -/
theorem spells_plain_iff {characters : List Char} {date : Date} :
    Spells characters date.plain ↔ characters = date.text := by
  rw [text_eq_digits]
  constructor
  · intro spelled
    rcases spelled with ⟨y₁, y₂, y₃, y₄, m₁, m₂, d₁, d₂, rfl, year, month, day⟩
    have years : date.year = 1000 * y₁ + 100 * y₂ + 10 * y₃ + y₄ := Int.ofNat_inj.mp year
    have months : date.month = 10 * m₁ + m₂ := Int.ofNat_inj.mp month
    have days : date.day = 10 * d₁ + d₂ := Int.ofNat_inj.mp day
    have thousands : date.year / 1000 = y₁ := by omega
    have hundreds : date.year / 100 % 10 = y₂ := by omega
    have tens : date.year / 10 % 10 = y₃ := by omega
    have units : date.year % 10 = y₄ := by omega
    have monthTens : date.month / 10 = m₁ := by omega
    have monthUnits : date.month % 10 = m₂ := by omega
    have dayTens : date.day / 10 = d₁ := by omega
    have dayUnits : date.day % 10 = d₂ := by omega
    rw [thousands, hundreds, tens, units, monthTens, monthUnits, dayTens, dayUnits]
  · intro written
    have yearSmall := date.year_le
    have monthSmall := date.month_le
    have daySmall := date.day_le_thirtyOne
    have years : date.year = 1000 * (date.year / 1000) + 100 * (date.year / 100 % 10) +
        10 * (date.year / 10 % 10) + date.year % 10 := by omega
    have months : date.month = 10 * (date.month / 10) + date.month % 10 := by omega
    have days : date.day = 10 * (date.day / 10) + date.day % 10 := by omega
    exact ⟨⟨date.year / 1000, by omega⟩, ⟨date.year / 100 % 10, by omega⟩,
      ⟨date.year / 10 % 10, by omega⟩, ⟨date.year % 10, by omega⟩, ⟨date.month / 10, by omega⟩,
      ⟨date.month % 10, by omega⟩, ⟨date.day / 10, by omega⟩, ⟨date.day % 10, by omega⟩, written,
      Int.ofNat_inj.mpr years, Int.ofNat_inj.mpr months, Int.ofNat_inj.mpr days⟩

end Date

end HybridSearch
