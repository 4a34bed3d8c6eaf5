import DialectSql.DateTime.Basic
import Mathlib.Algebra.GroupWithZero.Nat
import Mathlib.Order.Monotone.Basic

/-!
# Days and instants counted

The instant that a date-time denotes is the number of nanoseconds since the start of the year 1 in
universal time. Years are counted by the rule for leap years in closed form and months by adding up
their lengths; `daysBeforeYear_succ` and `daysBeforeMonth_thirteen` say that the two counts fit
together. That days have numbers in the order of the calendar is `CivilDate.dayNumber_lt_iff`.
-/

set_option autoImplicit false

namespace DialectSql

/-! ## Days -/

/-- The number of days of a year. -/
def daysInYear (year : Int) : Nat := if isLeapYear year then 366 else 365

theorem daysInMonth_le (year : Int) (month : Nat) : daysInMonth year month ≤ 31 := by
  have hfebruary : (if isLeapYear year = true then 29 else 28) ≤ 31 := by split <;> decide
  unfold daysInMonth
  split <;> omega

/-- The days from the start of the year 1 to the start of a year, negative for earlier years. -/
def daysBeforeYear (year : Int) : Int :=
  365 * (year - 1) + (year - 1) / 4 - (year - 1) / 100 + (year - 1) / 400

/-- The days of a year before the first of a month. -/
def daysBeforeMonth (year : Int) (month : Nat) : Nat :=
  ((List.range month).map (daysInMonth year)).sum

/-- A year has the days that the rule for leap years gives it, since the quotients grow exactly at
the years that the rule names. -/
theorem daysBeforeYear_succ (year : Int) :
    daysBeforeYear (year + 1) = daysBeforeYear year + daysInYear year := by
  unfold daysBeforeYear daysInYear
  by_cases hleap : isLeapYear year = true
  · rw [if_pos hleap]
    simp only [isLeapYear, Bool.and_eq_true, Bool.or_eq_true, beq_iff_eq, bne_iff_ne] at hleap
    omega
  · rw [if_neg hleap]
    simp only [isLeapYear, Bool.and_eq_true, Bool.or_eq_true, beq_iff_eq, bne_iff_ne] at hleap
    omega

theorem daysBeforeYear_le {y z : Int} (h : y ≤ z) : daysBeforeYear y ≤ daysBeforeYear z := by
  unfold daysBeforeYear
  omega

theorem daysBeforeMonth_succ (year : Int) (month : Nat) :
    daysBeforeMonth year (month + 1) = daysBeforeMonth year month + daysInMonth year month := by
  rw [daysBeforeMonth, List.range_succ, List.map_append, List.sum_append]
  exact congrArg (daysBeforeMonth year month + ·) (Nat.add_zero _)

theorem daysBeforeMonth_monotone (year : Int) : Monotone (daysBeforeMonth year) := by
  refine monotone_nat_of_le_succ fun month => ?_
  rw [daysBeforeMonth_succ]
  exact Nat.le_add_right ..

/-- The twelve months are the year. -/
theorem daysBeforeMonth_thirteen (year : Int) : daysBeforeMonth year 13 = daysInYear year := by
  unfold daysInYear
  cases hleap : isLeapYear year <;> simp [daysBeforeMonth, List.range_succ, daysInMonth, hleap]

namespace CivilDate

/-- The number of a day; the first day of the year 1 has the number 1. -/
def dayNumber (d : CivilDate) : Int :=
  daysBeforeYear d.year + daysBeforeMonth d.year d.month + d.day

/-- Earlier in the calendar: the years are compared first, then the months, then the days. -/
def Before (d e : CivilDate) : Prop :=
  d.year < e.year ∨ d.year = e.year ∧ (d.month < e.month ∨ d.month = e.month ∧ d.day < e.day)

/-- Of two different dates one is before the other. -/
theorem before_trichotomy (d e : CivilDate) : d.Before e ∨ d = e ∨ e.Before d := by
  rcases d with ⟨year, month, day, _, _, _⟩
  rcases e with ⟨year', month', day', _, _, _⟩
  simp only [Before, mk.injEq]
  omega

/-- The day lies before the first of the next month. -/
theorem day_le_succ_month (d : CivilDate) :
    daysBeforeMonth d.year d.month + d.day ≤ daysBeforeMonth d.year (d.month + 1) := by
  rw [daysBeforeMonth_succ]
  exact Nat.add_le_add_left d.day_le _

/-- A date lies in its year. -/
theorem dayNumber_le_year (d : CivilDate) : d.dayNumber ≤ daysBeforeYear (d.year + 1) := by
  have hmonth := daysBeforeMonth_monotone d.year (Nat.add_le_add_right d.month_bounds.2 1)
  rw [daysBeforeMonth_thirteen] at hmonth
  have hday := d.day_le_succ_month
  rw [dayNumber, daysBeforeYear_succ]
  omega

/-- An earlier date has a smaller number: it lies in an earlier year, in an earlier month of one
year or on an earlier day of one month. -/
theorem dayNumber_lt_of_before {d e : CivilDate} (h : d.Before e) :
    d.dayNumber < e.dayNumber := by
  have hpos := e.day_pos
  rcases h with hyear | ⟨hyear, hmonth | ⟨hmonth, hday⟩⟩
  · -- The year of `d` has ended when the year of `e` starts.
    have hstart := daysBeforeYear_le (Int.add_one_le_of_lt hyear)
    have hend := d.dayNumber_le_year
    unfold dayNumber at hend ⊢
    omega
  · -- So it is with the months, in one year.
    have hstart : daysBeforeMonth d.year (d.month + 1) ≤ daysBeforeMonth d.year e.month :=
      daysBeforeMonth_monotone d.year hmonth
    have hend := d.day_le_succ_month
    rw [dayNumber, dayNumber, ← hyear]
    omega
  · rw [dayNumber, dayNumber, ← hyear, ← hmonth]
    omega

/-- Days have their numbers in the order of the calendar. -/
theorem dayNumber_lt_iff (d e : CivilDate) : d.dayNumber < e.dayNumber ↔ d.Before e := by
  -- Of two different days one is earlier, so the numbers cannot be the other way round.
  refine ⟨fun h => ?_, dayNumber_lt_of_before⟩
  rcases before_trichotomy d e with hbefore | rfl | hafter
  · exact hbefore
  · exact absurd h (Int.lt_irrefl _)
  · exact absurd (dayNumber_lt_of_before hafter) (Int.lt_asymm h)

end CivilDate

/-! ## Instants -/

/-- The full seconds since midnight. -/
def TimeOfDay.secondOfDay (t : TimeOfDay) : Nat := (t.hour * 60 + t.minute) * 60 + t.second

/-- The instant in nanoseconds of universal time: a local clock that is ahead is set back. -/
def DateTime.instant (t : DateTime) : Int :=
  (t.date.dayNumber * 86400 + t.time.secondOfDay - t.offset.seconds) * 1000000000 +
    t.time.nanosecond

end DialectSql
