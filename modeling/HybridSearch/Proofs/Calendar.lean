import HybridSearch.Calendar
import Mathlib.Algebra.Group.Nat.Defs
import Mathlib.Data.List.Induction

/-! The order of the calendar, the number by which days are compared, and the one form in which a
date is written and read. -/

namespace HybridSearch

theorem daysInMonth_le (year month : Nat) : daysInMonth year month ≤ 31 := by
  unfold daysInMonth
  repeat' split
  all_goals omega

theorem month_le_of_daysInMonth_pos {year month : Nat} (real : 0 < daysInMonth year month) :
    month ≤ 12 := by
  unfold daysInMonth at real
  split at real <;> omega

namespace Date

/-- One day lies before another one: by the year, then by the month, then by the day. -/
def Before (left right : Date) : Prop :=
  left.year < right.year ∨ left.year = right.year ∧
    (left.month < right.month ∨ left.month = right.month ∧ left.day < right.day)

theorem month_le (date : Date) : date.month ≤ 12 :=
  month_le_of_daysInMonth_pos (Nat.lt_of_lt_of_le date.day_pos date.day_le)

theorem day_le_thirtyOne (date : Date) : date.day ≤ 31 :=
  Nat.le_trans date.day_le (daysInMonth_le date.year date.month)

/-- Days compare by their numbers as they do in the calendar: months and days never reach the
factors by which years and months count. -/
theorem rank_lt_rank_iff (left right : Date) : left.rank < right.rank ↔ left.Before right := by
  have leftMonth := left.month_le
  have leftDay := left.day_le_thirtyOne
  have rightMonth := right.month_le
  have rightDay := right.day_le_thirtyOne
  unfold rank Before
  omega

end Date

/-! ## Written dates -/

/-- A character is the digit of a value exactly when it is the one that the value is written with. -/
theorem Text.asciiDigit?_eq_some_iff {character : Char} {value : Nat} :
    asciiDigit? character = some value ↔ value < 10 ∧ character = value.digitChar := by
  have zero : '0'.toNat = 48 := rfl
  rw [asciiDigit?]
  constructor
  · intro read
    split at read
    · next isDigit =>
        have bounds : 48 ≤ character.toNat ∧ character.toNat ≤ 57 := isDigit
        rw [Option.some.injEq, zero] at read
        have small : value < 10 := by omega
        refine ⟨small, Char.toNat_inj.mp ?_⟩
        rw [Nat.toNat_digitChar_of_lt_ten small]
        omega
    · cases read
  · intro digit
    rcases digit with ⟨small, rfl⟩
    have code := Nat.toNat_digitChar_of_lt_ten small
    have isDigit : '0' ≤ value.digitChar ∧ value.digitChar ≤ '9' := by
      change 48 ≤ value.digitChar.toNat ∧ value.digitChar.toNat ≤ 57
      omega
    rw [if_pos isDigit, zero, code, Nat.add_sub_cancel_left]

theorem paddedDigits_one {value : Nat} (small : value < 10) :
    paddedDigits 1 value = [value.digitChar] := by
  simp [paddedDigits, Nat.toDigits_of_lt_base small]

/-- With one place more a number is written as its tenth, and then its last digit. -/
theorem paddedDigits_succ {width : Nat} (given : 0 < width) (value : Nat) :
    paddedDigits (width + 1) value = paddedDigits width (value / 10) ++ [(value % 10).digitChar] := by
  rcases Nat.lt_or_ge value 10 with small | large
  · have tenth : value / 10 = 0 := Nat.div_eq_of_lt small
    have pad : List.replicate width '0' = List.replicate (width - 1) '0' ++ ['0'] := by
      rw [← List.replicate_succ', Nat.sub_add_cancel given]
    simp only [paddedDigits, tenth, Nat.mod_eq_of_lt small, Nat.toDigits_of_lt_base small,
      Nat.toDigits_zero, List.length_singleton, Nat.add_sub_cancel, pad]
  · simp only [paddedDigits, Nat.toDigits_of_base_le (by decide) large, List.length_append,
      List.length_singleton, Nat.add_sub_add_right, List.append_assoc]

theorem digitRow?_append_singleton (front : List Char) (last : Char) :
    digitRow? (front ++ [last]) = (digitRow? front).bind fun sum =>
      (Text.asciiDigit? last).map fun unit => 10 * sum + unit := by
  rw [digitRow?, List.foldl_append]
  rfl

/-- A row of digits has a value exactly when it is what the value is written with in its places. -/
theorem digitRow?_eq_some_iff {digits : List Char} {value : Nat} (given : digits ≠ []) :
    digitRow? digits = some value ↔
      value < 10 ^ digits.length ∧ digits = paddedDigits digits.length value := by
  induction digits using List.reverseRecOn generalizing value with
  | nil => exact absurd rfl given
  | append_singleton front last induction =>
      rw [digitRow?_append_singleton, List.length_append, List.length_singleton]
      by_cases first : front = []
      · subst first
        have start : digitRow? [] = some 0 := rfl
        simp only [start, Option.bind_some, Option.map_eq_some_iff, Text.asciiDigit?_eq_some_iff,
          List.nil_append, List.length_nil, Nat.zero_add, Nat.pow_one, Nat.mul_zero,
          exists_eq_right]
        refine and_congr_right fun small => ?_
        rw [paddedDigits_one small, List.cons.injEq]
        simp
      · have places : 0 < front.length := List.length_pos_iff.mpr first
        simp only [paddedDigits_succ places, List.append_singleton_inj, Option.bind_eq_some_iff,
          Option.map_eq_some_iff, induction first, Text.asciiDigit?_eq_some_iff, Nat.pow_succ]
        constructor
        · intro read
          rcases read with ⟨sum, ⟨sumSmall, written⟩, unit, ⟨unitSmall, rfl⟩, rfl⟩
          have tenth : (10 * sum + unit) / 10 = sum := by omega
          have last : (10 * sum + unit) % 10 = unit := by omega
          rw [tenth, last]
          exact ⟨by omega, written, rfl⟩
        · intro read
          rcases read with ⟨small, written, rfl⟩
          exact ⟨value / 10, ⟨by omega, written⟩, value % 10, ⟨by omega, rfl⟩, by omega⟩

theorem length_paddedDigits {width value : Nat} (given : 0 < width) (small : value < 10 ^ width) :
    (paddedDigits width value).length = width := by
  have fits := (Nat.length_toDigits_le_iff (by decide) given).mpr small
  rw [paddedDigits, List.length_append, List.length_replicate]
  omega

/-- What a number is written with in a number of places is read as the number. -/
theorem digitRow?_paddedDigits {width value : Nat} (given : 0 < width)
    (small : value < 10 ^ width) : digitRow? (paddedDigits width value) = some value := by
  have places := length_paddedDigits given small
  have nonempty : paddedDigits width value ≠ [] := by
    rw [← List.length_pos_iff, places]
    exact given
  rw [digitRow?_eq_some_iff nonempty, places]
  exact ⟨small, rfl⟩

theorem isDigit_of_mem_paddedDigits {width value : Nat} {character : Char}
    (member : character ∈ paddedDigits width value) : character.isDigit = true := by
  rw [paddedDigits, List.mem_append] at member
  rcases member with pad | digit
  · rw [List.eq_of_mem_replicate pad]
    rfl
  · exact Nat.isDigit_of_mem_toDigits (by decide) (by decide) digit

namespace Date

theorem of?_eq_some_iff {year month day : Nat} {date : Date} :
    of? year month day = some date ↔
      date.year = year ∧ date.month = month ∧ date.day = day := by
  rw [of?]
  constructor
  · intro found
    split at found
    · cases found
      exact ⟨rfl, rfl, rfl⟩
    · cases found
  · intro same
    rcases same with ⟨rfl, rfl, rfl⟩
    exact dif_pos ⟨date.year_pos, date.year_le, date.day_pos, date.day_le⟩

/-- No day is the one behind itself. -/
theorem next?_ne_self (date : Date) : date.next? ≠ some date := by
  intro same
  simp only [next?, Option.or_eq_some_iff, of?_eq_some_iff] at same
  omega

/-- A text is read as a date exactly when it is what the date is written as. -/
theorem read?_eq_some_iff {characters : List Char} {date : Date} :
    read? characters = some date ↔ characters = date.text := by
  constructor
  · intro read
    unfold read? at read
    split at read
    · next y1 y2 y3 y4 m1 m2 d1 d2 =>
        simp only [Option.bind_eq_bind, Option.bind_eq_some_iff, of?_eq_some_iff] at read
        rcases read with ⟨_, years, _, months, _, days, rfl, rfl, rfl⟩
        have yearText : _ = paddedDigits 4 date.year :=
          ((digitRow?_eq_some_iff (List.cons_ne_nil y1 _)).mp years).2
        have monthText : _ = paddedDigits 2 date.month :=
          ((digitRow?_eq_some_iff (List.cons_ne_nil m1 _)).mp months).2
        have dayText : _ = paddedDigits 2 date.day :=
          ((digitRow?_eq_some_iff (List.cons_ne_nil d1 _)).mp days).2
        rw [text, ← yearText, ← monthText, ← dayText]
        rfl
    · cases read
  · rintro rfl
    -- The parts are written with four, two and two characters, between which the dashes stand.
    have yearSmall : date.year < 10 ^ 4 := Nat.lt_succ_of_le date.year_le
    have monthSmall : date.month < 10 ^ 2 := Nat.lt_of_le_of_lt date.month_le (by decide)
    have daySmall : date.day < 10 ^ 2 := Nat.lt_of_le_of_lt date.day_le_thirtyOne (by decide)
    have yearPlaces := length_paddedDigits (by decide) yearSmall
    have years := digitRow?_paddedDigits (by decide) yearSmall
    have monthPlaces := length_paddedDigits (by decide) monthSmall
    have months := digitRow?_paddedDigits (by decide) monthSmall
    have dayPlaces := length_paddedDigits (by decide) daySmall
    have days := digitRow?_paddedDigits (by decide) daySmall
    rw [text]
    generalize paddedDigits 4 date.year = yearText at yearPlaces years
    generalize paddedDigits 2 date.month = monthText at monthPlaces months
    generalize paddedDigits 2 date.day = dayText at dayPlaces days
    match yearText, monthText, dayText, yearPlaces, monthPlaces, dayPlaces with
    | [y1, y2, y3, y4], [m1, m2], [d1, d2], _, _, _ =>
      simp only [read?, List.cons_append, List.nil_append]
      rw [years, months, days]
      exact of?_eq_some_iff.mpr ⟨rfl, rfl, rfl⟩

/-- A date is written with digits and dashes. -/
theorem mem_text {date : Date} {character : Char} (member : character ∈ date.text) :
    character.isDigit = true ∨ character = '-' := by
  simp only [text, List.mem_append, List.mem_cons] at member
  rcases member with (year | dash | month) | dash | day
  · exact .inl (isDigit_of_mem_paddedDigits year)
  · exact .inr dash
  · exact .inl (isDigit_of_mem_paddedDigits month)
  · exact .inr dash
  · exact .inl (isDigit_of_mem_paddedDigits day)

theorem count_dash_text (date : Date) : date.text.count '-' = 2 := by
  have digits (width value : Nat) : (paddedDigits width value).count '-' = 0 :=
    List.count_eq_zero.mpr fun member => absurd (isDigit_of_mem_paddedDigits member) (by decide)
  simp [text, digits]

end Date

/-! ## Days of the store -/

/-- A timestamp lies on the day that it is written with unless it reaches midnight, and then where
there is a next day and days so late in a month are not renewed. -/
theorem Timestamp.day?_eq_date_iff {renews : Bool} {timestamp : Timestamp} :
    timestamp.day? renews = some timestamp.date ↔
      (timestamp.reachesMidnight = true →
        timestamp.date.next?.isSome = true ∧ (renews = true → timestamp.date.day ≤ 28)) := by
  rw [day?]
  cases reaches : timestamp.reachesMidnight with
  | false => simp
  | true =>
      have other := timestamp.date.next?_ne_self
      cases following : timestamp.date.next? with
      | none => simp
      | some next =>
          have moved : next ≠ timestamp.date := by
            intro same
            rw [same] at following
            exact other following
          rw [if_pos rfl, Option.map_some, Option.some_inj]
          split
          · next renewed =>
              rw [Bool.and_eq_true, decide_eq_true_iff] at renewed
              apply iff_of_false moved
              intro kept
              have early := (kept rfl).2 renewed.1
              omega
          · next written =>
              rw [Bool.and_eq_true, decide_eq_true_iff] at written
              apply iff_of_true rfl
              intro _
              apply And.intro rfl
              intro renews
              have early := mt (And.intro renews) written
              omega

end HybridSearch
