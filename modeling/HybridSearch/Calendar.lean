import HybridSearch.Text.DecimalDigit

/-! Dates and timestamps of the Gregorian calendar, without a time zone. A date is read from and
written in one form only, four digits of the year, two of the month and two of the day. -/

namespace HybridSearch

def isLeapYear (year : Nat) : Bool :=
  year % 4 = 0 && (year % 100 ≠ 0 || year % 400 = 0)

/-- The number of days of a month; there are none in a month that does not exist. -/
def daysInMonth (year : Nat) : Nat → Nat
  | 1 | 3 | 5 | 7 | 8 | 10 | 12 => 31
  | 4 | 6 | 9 | 11 => 30
  | 2 => if isLeapYear year then 29 else 28
  | _ => 0

/-- A day of the years 1 to 9999. -/
structure Date where
  year : Nat
  month : Nat
  day : Nat
  year_pos : 1 ≤ year := by decide
  year_le : year ≤ 9999 := by decide
  day_pos : 1 ≤ day := by decide
  day_le : day ≤ daysInMonth year month := by decide
deriving DecidableEq, Repr

namespace Date

/-- The date with the given parts, if the calendar has it. -/
def of? (year month day : Nat) : Option Date :=
  if real : 1 ≤ year ∧ year ≤ 9999 ∧ 1 ≤ day ∧ day ≤ daysInMonth year month then
    some ⟨year, month, day, real.1, real.2.1, real.2.2.1, real.2.2.2⟩
  else none

/-- The day behind a day, in its month, the next month or the next year. The last day has none. -/
def next? (date : Date) : Option Date :=
  (of? date.year date.month (date.day + 1)).or <|
    (of? date.year (date.month + 1) 1).or (of? (date.year + 1) 1 1)

/-- A number that grows from each day to the next. -/
def rank (date : Date) : Nat :=
  (date.year * 13 + date.month) * 32 + date.day

end Date

/-- The digits of a number, with zeros before them up to a width. -/
def paddedDigits (width value : Nat) : List Char :=
  let digits := Nat.toDigits 10 value
  List.replicate (width - digits.length) '0' ++ digits

/-- The value of a row of digits, if all are digits. -/
def digitRow? (digits : List Char) : Option Nat :=
  digits.foldl
    (fun value digit => value.bind fun sum =>
      (Text.asciiDigit? digit).map fun unit => 10 * sum + unit)
    (some 0)

namespace Date

/-- A date in its written form. -/
def text (date : Date) : List Char :=
  paddedDigits 4 date.year ++ '-' :: paddedDigits 2 date.month ++ '-' :: paddedDigits 2 date.day

/-- Reads a date that fills the whole text. -/
def read? : List Char → Option Date
  | [y1, y2, y3, y4, '-', m1, m2, '-', d1, d2] => do
      let year ← digitRow? [y1, y2, y3, y4]
      let month ← digitRow? [m1, m2]
      let day ← digitRow? [d1, d2]
      of? year month day
  | _ => none

end Date

/-- A point in time, to the millionth of a second. -/
structure Timestamp where
  date : Date
  hour : Nat
  minute : Nat
  second : Nat
  micros : Nat
deriving DecidableEq, Repr

namespace Timestamp

/-- A timestamp in its written form; the fraction stands only where it is not zero. -/
def text (timestamp : Timestamp) : List Char :=
  timestamp.date.text ++ 'T' :: paddedDigits 2 timestamp.hour ++
    ':' :: paddedDigits 2 timestamp.minute ++ ':' :: paddedDigits 2 timestamp.second ++
    (if timestamp.micros = 0 then [] else '.' :: paddedDigits 6 timestamp.micros)

/-- The fraction of a second at the start of a text, in millionths. -/
def readMicros? : List Char → Option Nat
  | '.' :: rest =>
      let digits := (rest.takeWhile fun character => (Text.asciiDigit? character).isSome).take 6
      (digitRow? digits).map fun value => value * Nat.pow 10 (6 - digits.length)
  | _ => some 0

/-- Reads a timestamp. What follows the fraction is a distance from universal time; it is dropped
and not applied. -/
def read? (characters : List Char) : Option Timestamp := do
  let date ← Date.read? (characters.take 10)
  match characters.drop 10 with
  | [] => some ⟨date, 0, 0, 0, 0⟩
  | _ :: h1 :: h2 :: ':' :: m1 :: m2 :: rest => do
      let hour ← digitRow? [h1, h2]
      let minute ← digitRow? [m1, m2]
      match rest with
      | ':' :: s1 :: s2 :: rest => do
          let second ← digitRow? [s1, s2]
          let micros ← readMicros? rest
          some ⟨date, hour, minute, second, micros⟩
      | _ => some ⟨date, hour, minute, 0, 0⟩
  | _ => none

/-- Whether a timestamp, taken to the nearest thousandth of a second, is the midnight that ends its
day. -/
def reachesMidnight (timestamp : Timestamp) : Bool :=
  timestamp.hour = 23 && timestamp.minute = 59 && timestamp.second = 59 &&
    999500 ≤ timestamp.micros

/-- The day on which a timestamp lies for a store that works to the nearest thousandth of a second. The
last half of a thousandth of a day reaches the midnight behind it, and behind the last day of the
calendar there is none. Where there is one, the day stays the one that is written, but for releases
of the store that renew the days behind the twenty-eighth of a month. -/
def day? (renews : Bool) (timestamp : Timestamp) : Option Date :=
  if timestamp.reachesMidnight then
    timestamp.date.next?.map fun next =>
      if renews && 28 < timestamp.date.day then next else timestamp.date
  else some timestamp.date

end Timestamp

end HybridSearch
