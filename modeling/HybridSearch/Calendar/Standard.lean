import HybridSearch.Calendar

/-! Dates in the forms of the international standard. A day is named by its month or by its week, with
dashes between the parts or without them. -/

namespace HybridSearch

def daysInYear (year : Nat) : Nat :=
  if isLeapYear year then 366 else 365

/-- The number of days from the first day of year 1, which was a Monday, to the first one of a year. -/
def daysBeforeYear (year : Nat) : Nat :=
  let past := year - 1
  365 * past + past / 4 - past / 100 + past / 400

namespace Date

/-- The day at a distance from the first one of the given months of a year. -/
def inMonths? (year : Nat) : List Nat → Nat → Option Date
  | [], _ => none
  | month :: later, distance =>
      if distance < daysInMonth year month then of? year month (distance + 1)
      else inMonths? year later (distance - daysInMonth year month)

def inYear? (year distance : Nat) : Option Date :=
  inMonths? year [1, 2, 3, 4, 5, 6, 7, 8, 9, 10, 11, 12] distance

/-- The day at a distance from the first one of a year. The distance may lead into the year before or
the year after. -/
def atDistance? (year : Nat) (distance : Int) : Option Date :=
  if distance < 0 then inYear? (year - 1) (distance + daysInYear (year - 1)).toNat
  else if distance < daysInYear year then inYear? year distance.toNat
  else inYear? (year + 1) (distance - daysInYear year).toNat

/-- The day with the given parts of a week date, if there is one. Weeks start on Mondays, and a year
has the weeks whose Thursdays lie in it. -/
def ofWeek? (year week weekday : Nat) : Option Date :=
  let start := daysBeforeYear year % 7
  let firstMonday : Int := if start ≤ 3 then -start else 7 - start
  let monday : Int := firstMonday + 7 * (week - 1)
  if 1 ≤ year ∧ 1 ≤ week ∧ monday + 3 < daysInYear year ∧ 1 ≤ weekday ∧ weekday ≤ 7 then
    atDistance? year (monday + weekday - 1)
  else none

/-- Reads a date without dashes. -/
def readJoined? : List Char → Option Date
  | [y1, y2, y3, y4, m1, m2, d1, d2] => do
      let year ← digitRow? [y1, y2, y3, y4]
      let month ← digitRow? [m1, m2]
      let day ← digitRow? [d1, d2]
      of? year month day
  | _ => none

def ofWeekDigits? (yearDigits weekDigits : List Char) (weekdayDigit : Char) : Option Date := do
  let year ← digitRow? yearDigits
  let week ← digitRow? weekDigits
  let weekday ← Text.asciiDigit? weekdayDigit
  ofWeek? year week weekday

/-- Reads a week date. Where no day of the week is named, its Monday is meant. -/
def readWeek? : List Char → Option Date
  | [y1, y2, y3, y4, 'W', w1, w2] => ofWeekDigits? [y1, y2, y3, y4] [w1, w2] '1'
  | [y1, y2, y3, y4, 'W', w1, w2, d] => ofWeekDigits? [y1, y2, y3, y4] [w1, w2] d
  | [y1, y2, y3, y4, '-', 'W', w1, w2] => ofWeekDigits? [y1, y2, y3, y4] [w1, w2] '1'
  | [y1, y2, y3, y4, '-', 'W', w1, w2, '-', d] => ofWeekDigits? [y1, y2, y3, y4] [w1, w2] d
  | _ => none

/-- Reads a date in any of the forms. -/
def readStandard? (characters : List Char) : Option Date :=
  (read? characters).or ((readJoined? characters).or (readWeek? characters))

/-- A digit of any script counts as a zero in the outline of a text. -/
def outlined (character : Char) : Char :=
  if (Text.digitValue? character).isSome then '0' else character

/-- Whether a text is four digits, a dash, two digits, a dash and two digits. The end of a line may
follow. -/
def hasOutline (characters : List Char) : Bool :=
  characters.map outlined = "0000-00-00".toList || characters.map outlined = "0000-00-00\n".toList

end Date

end HybridSearch
