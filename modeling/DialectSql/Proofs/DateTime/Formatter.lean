import DialectSql.DateTime.Layout
import DialectSql.Proofs.DateTime.Instant
import DialectSql.Proofs.Text.Ordering

/-!
# What is relied on of a formatter

The layouts of date-times are put together from components that a formatter writes. All that is
relied on of it stands in `Formatter.Lawful`: the components are numerals of fixed width, and the
signs of years and offsets are in front of them. The standard formatter is lawful
(`Formatter.standard_lawful`), and what is read from a date-time or how date-times sort is proved of
any lawful one.

The main statement `Formatter.Lawful.texts_eq` says that nothing is left open: all lawful formatters
give a date-time the same text in every dialect.
-/

set_option autoImplicit false

namespace DialectSql

open Text

/-- A year has four digits behind the sign of a negative one, the other parts of a date or a time of
day have two. An offset has two digits of hours behind the sign of the whole offset and two of
minutes, whatever its seconds are. -/
structure Formatter.Lawful (f : Formatter) : Prop where
  year (d : CivilDate) : IsSigned (if d.year < 0 then "-" else "") 4 d.year.natAbs (f.year d.year)
  field (n : Nat) (h : n < 100) : IsNumeral 2 n (f.field n)
  offsetHours (o : UtcOffset) : IsSigned (if o.seconds < 0 then "-" else "+") 2
    (o.seconds.natAbs / 3600) (f.offsetHours o.seconds)
  offsetMinutes (o : UtcOffset) :
    IsNumeral 2 (o.seconds.natAbs / 60 % 60) (f.offsetMinutes o.seconds)

/-- The standard formatter is lawful, since all that it writes fits into its fields. -/
theorem Formatter.standard_lawful : standard.Lawful where
  year d := by
    have hyear := d.year_bounds
    exact ⟨_, rfl, isNumeral_zeroPadded (by decide) (by omega)⟩
  field _ h := isNumeral_zeroPadded (by decide) h
  offsetHours o := by
    have hbounds := o.bounds
    exact ⟨_, rfl, isNumeral_zeroPadded (by decide) (by omega)⟩
  offsetMinutes _ :=
    isNumeral_zeroPadded (by decide) (Nat.lt_trans (Nat.mod_lt _ (by decide)) (by decide))

namespace Formatter.Lawful

variable {f g : Formatter} (hf : f.Lawful)
include hf

/-! ## Components -/

/-- A year that is not negative is four digits, without a sign. -/
theorem year_of_nonneg {d : CivilDate} (hd : 0 ≤ d.year) :
    IsNumeral 4 d.year.natAbs (f.year d.year) := by
  obtain ⟨digits, hdigits, hnumeral⟩ := hf.year d
  rw [if_neg (Int.not_lt.mpr hd), String.empty_append] at hdigits
  rwa [hdigits]

/-- The month fits into its field because it is one of the twelve. -/
theorem month (d : CivilDate) : IsNumeral 2 d.month (f.field d.month) :=
  hf.field d.month (Nat.lt_of_le_of_lt d.month_bounds.2 (by decide))

/-- The day fits into its field because no month has more than thirty-one. -/
theorem day (d : CivilDate) : IsNumeral 2 d.day (f.field d.day) :=
  hf.field d.day
    (Nat.lt_of_le_of_lt (Nat.le_trans d.day_le (daysInMonth_le d.year d.month)) (by decide))

theorem hour (t : TimeOfDay) : IsNumeral 2 t.hour (f.field t.hour) :=
  hf.field t.hour (Nat.lt_trans t.hour_lt (by decide))

theorem minute (t : TimeOfDay) : IsNumeral 2 t.minute (f.field t.minute) :=
  hf.field t.minute (Nat.lt_trans t.minute_lt (by decide))

theorem second (t : TimeOfDay) : IsNumeral 2 t.second (f.field t.second) :=
  hf.field t.second (Nat.lt_trans t.second_lt (by decide))

/-! ## One text for a date-time -/

variable (hg : g.Lawful)
include hg

theorem field_eq {n : Nat} (h : n < 100) : f.field n = g.field n :=
  ((hf.field n h).eq_iff (hg.field n h)).mpr rfl

/-- The text of a date is the same for all lawful formatters. -/
theorem date_eq (d : CivilDate) : d.text f = d.text g := by
  rw [CivilDate.text, CivilDate.text, (hf.year d).eq (hg.year d),
    ((hf.month d).eq_iff (hg.month d)).mpr rfl, ((hf.day d).eq_iff (hg.day d)).mpr rfl]

theorem shortDate_eq (d : CivilDate) : d.shortText f = d.shortText g := by
  rw [CivilDate.shortText, CivilDate.shortText, ((hf.day d).eq_iff (hg.day d)).mpr rfl,
    hf.field_eq hg (Nat.mod_lt _ (by decide))]

theorem time_eq (t : TimeOfDay) : t.text f = t.text g := by
  rw [TimeOfDay.text, TimeOfDay.text, ((hf.hour t).eq_iff (hg.hour t)).mpr rfl,
    ((hf.minute t).eq_iff (hg.minute t)).mpr rfl, ((hf.second t).eq_iff (hg.second t)).mpr rfl]

theorem offset_eq (o : UtcOffset) : o.text f = o.text g := by
  rw [UtcOffset.text, UtcOffset.text, (hf.offsetHours o).eq (hg.offsetHours o),
    ((hf.offsetMinutes o).eq_iff (hg.offsetMinutes o)).mpr rfl]

/-- **The laws fix the layout.** Lawful formatters give a date-time the same text in every dialect,
both in a literal and where a date is taken directly. -/
theorem texts_eq (d : Dialect) (t : DateTime) :
    t.body d f = t.body d g ∧ t.dateText d f = t.dateText d g := by
  have hlocal : t.localText f = t.localText g := by
    rw [DateTime.localText, DateTime.localText, hf.date_eq hg, hf.time_eq hg]
  have hiso : t.isoText f = t.isoText g := by
    rw [DateTime.isoText, DateTime.isoText, hf.date_eq hg, hf.time_eq hg, hf.offset_eq hg]
  have hoffset : t.offsetText f = t.offsetText g := by
    rw [DateTime.offsetText, DateTime.offsetText, hlocal, hf.offset_eq hg]
  cases d with
  | postgresql => exact ⟨hoffset, hf.date_eq hg t.date⟩
  | sqlite => exact ⟨hiso, hiso⟩
  | oracle => exact ⟨hlocal, hf.shortDate_eq hg t.date⟩
  | _ => exact ⟨hlocal, hf.date_eq hg t.date⟩

end Formatter.Lawful

end DialectSql
