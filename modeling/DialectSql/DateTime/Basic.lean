/-!
# Civil dates, times of day and offsets

A `DateTime` is a local date and time of day together with the offset of the local clock from
universal time. The parts are valid by construction. Years are astronomical: the year before 1
is 0.
-/

set_option autoImplicit false

namespace DialectSql

/-- Leap years of the Gregorian calendar, carried on to all years. -/
def isLeapYear (year : Int) : Bool :=
  year % 4 == 0 && (year % 100 != 0 || year % 400 == 0)

/-- The number of days of a month, zero if there is no such month. -/
def daysInMonth (year : Int) : Nat → Nat
  | 1 | 3 | 5 | 7 | 8 | 10 | 12 => 31
  | 4 | 6 | 9 | 11 => 30
  | 2 => if isLeapYear year then 29 else 28
  | _ => 0

/-- A day of the Gregorian calendar in the years -9999 to 9999. -/
structure CivilDate where
  year : Int
  month : Nat
  day : Nat
  year_bounds : -9999 ≤ year ∧ year ≤ 9999
  day_pos : 1 ≤ day
  day_le : day ≤ daysInMonth year month
deriving DecidableEq

/-- A time of day; no minute has a leap second. -/
structure TimeOfDay where
  hour : Nat
  minute : Nat
  second : Nat
  nanosecond : Nat
  hour_lt : hour < 24
  minute_lt : minute < 60
  second_lt : second < 60
  nanosecond_lt : nanosecond < 1000000000
deriving DecidableEq

/-- How far a local clock is ahead of universal time, in seconds, by less than twenty-six hours. -/
structure UtcOffset where
  seconds : Int
  bounds : seconds.natAbs < 93600
deriving DecidableEq

/-- A local date and time of day at an offset from universal time. -/
structure DateTime where
  date : CivilDate
  time : TimeOfDay
  offset : UtcOffset
deriving DecidableEq

/-- The date with the given year, month and day, if the calendar has it. -/
def CivilDate.ofYearMonthDay? (year : Int) (month day : Nat) : Option CivilDate :=
  if h : (-9999 ≤ year ∧ year ≤ 9999) ∧ 1 ≤ day ∧ day ≤ daysInMonth year month then
    some ⟨year, month, day, h.1, h.2.1, h.2.2⟩
  else none

/-- The time of day with the given parts, if there is one. -/
def TimeOfDay.ofParts? (hour minute second nanosecond : Nat) : Option TimeOfDay :=
  if h : hour < 24 ∧ minute < 60 ∧ second < 60 ∧ nanosecond < 1000000000 then
    some ⟨hour, minute, second, nanosecond, h.1, h.2.1, h.2.2.1, h.2.2.2⟩
  else none

/-- The offset of the given number of seconds, if it is small enough. -/
def UtcOffset.ofSeconds? (seconds : Int) : Option UtcOffset :=
  if h : seconds.natAbs < 93600 then some ⟨seconds, h⟩ else none

/-- A month of a date is one of the twelve: no other month has days. -/
theorem CivilDate.month_bounds (d : CivilDate) : 1 ≤ d.month ∧ d.month ≤ 12 := by
  have h := Nat.le_trans d.day_pos d.day_le
  unfold daysInMonth at h
  split at h <;> omega

end DialectSql
