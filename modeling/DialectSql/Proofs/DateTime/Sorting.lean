import DialectSql.Proofs.Backticks
import DialectSql.Proofs.DateTime.Reader
import Mathlib.Data.Int.Order.Basic

/-!
# Date-times sort as texts

A database that keeps date-times as texts compares them character by character. In the years 0 to
9999 every field of a date-time has its full width, from the years down to the seconds, so the
comparison is the one of the fields. What stands around the fields is the same in two literals of
one dialect whose date-times have the same offset.

The main statement `literals_sort_as_time` says that the literals then compare as the instants of
the full seconds do, and that they are equal exactly if the date-times agree to the second.
-/

set_option autoImplicit false

namespace DialectSql

open Text

/-- Texts and numbers that sort alike compare alike. -/
theorem compare_eq_of_lt_iff {a b : String} {x y : Int} (hlt : a < b ↔ x < y)
    (hgt : b < a ↔ y < x) : compare a b = compare x y := by
  have heq := eq_iff_of_lt_iff hlt hgt
  show compareOfLessAndEq a b = compareOfLessAndEq x y
  simp only [compareOfLessAndEq, hlt, heq]

/-! ## Dates and times of day -/

namespace CivilDate

/-- Two days with one number are the same day. -/
theorem dayNumber_inj {d e : CivilDate} : d.dayNumber = e.dayNumber ↔ d = e := by
  constructor
  · intro h
    rcases before_trichotomy d e with hbefore | heq | hafter
    · exact absurd h (Int.ne_of_lt (dayNumber_lt_of_before hbefore))
    · exact heq
    · exact absurd h (Int.ne_of_gt (dayNumber_lt_of_before hafter))
  · rintro rfl
    rfl

section

variable {f : Formatter} (hf : f.Lawful)
include hf

/-- The text of a date without a sign has ten characters. -/
theorem length_text {d : CivilDate} (hd : 0 ≤ d.year) : (d.text f).toList.length = 10 := by
  rw [toList_text, List.length_append, List.length_cons, List.length_append, List.length_cons,
    (hf.year_of_nonneg hd).length, (hf.month d).length, (hf.day d).length]

variable {d e : CivilDate} (hd : 0 ≤ d.year) (he : 0 ≤ e.year)
include hd he

/-- Dates that are not before the year 0 sort as days do. -/
theorem text_lt_iff : (d.text f).toList < (e.text f).toList ↔ d.dayNumber < e.dayNumber := by
  have hyear : d.year.natAbs < e.year.natAbs ↔ d.year < e.year := by omega
  have hyear' : d.year.natAbs = e.year.natAbs ↔ d.year = e.year := by omega
  rw [dayNumber_lt_iff, Before, toList_text, toList_text,
    (hf.year_of_nonneg hd).append_lt_iff (hf.year_of_nonneg he),
    (hf.month d).append_lt_iff (hf.month e), (hf.day d).lt_iff (hf.day e), hyear, hyear']

/-- Two dates have one text exactly if they are one day. -/
theorem toList_text_inj : (d.text f).toList = (e.text f).toList ↔ d.dayNumber = e.dayNumber := by
  have hlt : d.text f < e.text f ↔ d.dayNumber < e.dayNumber := text_lt_iff hf hd he
  have hgt : e.text f < d.text f ↔ e.dayNumber < d.dayNumber := text_lt_iff hf he hd
  rw [String.toList_inj]
  exact eq_iff_of_lt_iff hlt hgt

end

end CivilDate

namespace TimeOfDay

theorem secondOfDay_lt (t : TimeOfDay) : t.secondOfDay < 86400 := by
  have hhour := t.hour_lt
  have hminute := t.minute_lt
  have hsecond := t.second_lt
  unfold secondOfDay
  omega

/-- Two times of day with one full second differ in its fraction at most. -/
theorem toSecond_inj {t u : TimeOfDay} :
    t.toSecond = u.toSecond ↔ t.secondOfDay = u.secondOfDay := by
  have hminute := t.minute_lt
  have hminute' := u.minute_lt
  have hsecond := t.second_lt
  have hsecond' := u.second_lt
  simp only [toSecond, secondOfDay, mk.injEq, and_true]
  omega

section

variable {f : Formatter} (hf : f.Lawful)
include hf

theorem length_text (t : TimeOfDay) : (t.text f).toList.length = 8 := by
  rw [toList_text, List.length_append, List.length_cons, List.length_append, List.length_cons,
    (hf.hour t).length, (hf.minute t).length, (hf.second t).length]

/-- Times of day sort as their full seconds do. -/
theorem text_lt_iff (t u : TimeOfDay) :
    (t.text f).toList < (u.text f).toList ↔ t.secondOfDay < u.secondOfDay := by
  rw [toList_text, toList_text, (hf.hour t).append_lt_iff (hf.hour u),
    (hf.minute t).append_lt_iff (hf.minute u), (hf.second t).lt_iff (hf.second u)]
  have hminute := t.minute_lt
  have hminute' := u.minute_lt
  have hsecond := t.second_lt
  have hsecond' := u.second_lt
  unfold secondOfDay
  omega

end

end TimeOfDay

/-! ## Date-times -/

namespace DateTime

/-- The date-time without the fraction of its second. -/
def toSecond (t : DateTime) : DateTime := { t with time := t.time.toSecond }

section

variable {t u : DateTime} (hoffset : t.offset = u.offset)
include hoffset

/-- With one offset the days are compared first and then the full seconds of the day. -/
theorem instant_toSecond_lt_iff :
    t.toSecond.instant < u.toSecond.instant ↔
      t.date.dayNumber < u.date.dayNumber ∨
        t.date.dayNumber = u.date.dayNumber ∧ t.time.secondOfDay < u.time.secondOfDay := by
  have ht := t.time.secondOfDay_lt
  have hu := u.time.secondOfDay_lt
  have hinstant (v : DateTime) : v.toSecond.instant =
      (v.date.dayNumber * 86400 + v.time.secondOfDay - v.offset.seconds) * 1000000000 + 0 := rfl
  rw [hinstant, hinstant, hoffset]
  omega

/-- Times in whole seconds are told apart by their instants. -/
theorem instant_toSecond_inj :
    t.toSecond.instant = u.toSecond.instant ↔ t.toSecond = u.toSecond := by
  constructor
  · intro h
    have hlt := mt (instant_toSecond_lt_iff hoffset).mpr (Int.not_lt.mpr (Int.le_of_eq h.symm))
    have hgt :=
      mt (instant_toSecond_lt_iff hoffset.symm).mpr (Int.not_lt.mpr (Int.le_of_eq h))
    have hdate : t.date = u.date := CivilDate.dayNumber_inj.mp (by omega)
    have htime : t.time.toSecond = u.time.toSecond := TimeOfDay.toSecond_inj.mpr (by omega)
    rw [toSecond, toSecond, hdate, htime, hoffset]
  · intro h
    rw [h]

end

/-- In every dialect a body is the date, a mark, the time of day and what is made of the offset. -/
theorem exists_layout (d : Dialect) (f : Formatter) :
    ∃ (mark : Char) (ending : UtcOffset → List Char), ∀ t : DateTime, (t.body d f).toList =
      (t.date.text f).toList ++ mark :: ((t.time.text f).toList ++ ending t.offset) := by
  have hlocal (t : DateTime) : (t.localText f).toList =
      (t.date.text f).toList ++ ' ' :: ((t.time.text f).toList ++ []) := by
    simp [localText, String.toList_append]
  cases d with
  | postgresql => exact ⟨' ', fun o => ' ' :: (o.text f).toList, toList_offsetText f⟩
  | sqlite => exact ⟨'T', fun o => (o.text f).toList, toList_isoText f⟩
  | _ => exact ⟨' ', fun _ => [], hlocal⟩

section

variable {f : Formatter} (hf : f.Lawful) {t u : DateTime} (hoffset : t.offset = u.offset)
  (ht : 0 ≤ t.date.year) (hu : 0 ≤ u.date.year)
include hf hoffset ht hu

theorem length_body (d : Dialect) : (t.body d f).toList.length = (u.body d f).toList.length := by
  obtain ⟨mark, ending, hlayout⟩ := exists_layout d f
  rw [hlayout, hlayout, hoffset, List.length_append, List.length_append, List.length_cons,
    List.length_cons, List.length_append, List.length_append, CivilDate.length_text hf ht,
    CivilDate.length_text hf hu, TimeOfDay.length_text hf, TimeOfDay.length_text hf]

/-- Bodies sort as the instants of the full seconds do. -/
theorem body_lt_iff (d : Dialect) :
    (t.body d f).toList < (u.body d f).toList ↔ t.toSecond.instant < u.toSecond.instant := by
  obtain ⟨mark, ending, hlayout⟩ := exists_layout d f
  have hdates := (CivilDate.length_text hf ht).trans (CivilDate.length_text hf hu).symm
  have htimes := (t.time.length_text hf).trans (u.time.length_text hf).symm
  rw [hlayout, hlayout, hoffset, append_lt_append_iff hdates, List.cons_lt_cons_self,
    append_right_lt_iff htimes, CivilDate.text_lt_iff hf ht hu, CivilDate.toList_text_inj hf ht hu,
    TimeOfDay.text_lt_iff hf, instant_toSecond_lt_iff hoffset]

end

end DateTime

/-! ## Literals -/

/-- Neither standard escaper rewrites a character of the text. -/
def IsLeftAlone (s : String) : Prop := s.toList.all isNeutralChar = true

instance (s : String) : Decidable (IsLeftAlone s) :=
  inferInstanceAs (Decidable (s.toList.all isNeutralChar = true))

theorem isLeftAlone_append {s t : String} :
    IsLeftAlone (s ++ t) ↔ IsLeftAlone s ∧ IsLeftAlone t := by
  rw [IsLeftAlone, String.toList_append, List.all_append, Bool.and_eq_true]
  rfl

/-- No digit is rewritten. -/
theorem isLeftAlone_of_isNumeral {width n : Nat} {text : String} (h : IsNumeral width n text) :
    IsLeftAlone text := by
  have hnone : rewrittenChars.all (! ·.isDigit) = true := by decide
  refine List.all_eq_true.mpr fun c hc => ?_
  have hdigit := h.isDigit c hc
  rw [isNeutralChar, Bool.not_eq_true', ← Bool.not_eq_true, List.contains_iff_mem]
  intro hmem
  have hother := List.all_eq_true.mp hnone c hmem
  rw [hdigit] at hother
  cases hother

/-- A sign that is not rewritten may stand in front of digits. -/
theorem isLeftAlone_of_isSigned {sign text : String} {width n : Nat}
    (h : IsSigned sign width n text) (hsign : IsLeftAlone sign) : IsLeftAlone text := by
  obtain ⟨digits, rfl, hdigits⟩ := h
  exact isLeftAlone_append.mpr ⟨hsign, isLeftAlone_of_isNumeral hdigits⟩

section

variable {f : Formatter} (hf : f.Lawful)
include hf

theorem CivilDate.isLeftAlone_text (d : CivilDate) : IsLeftAlone (d.text f) := by
  have hyear : IsLeftAlone (f.year d.year) :=
    isLeftAlone_of_isSigned (hf.year d) (by split <;> decide)
  simp only [text, isLeftAlone_append]
  exact ⟨⟨⟨⟨hyear, by decide⟩, isLeftAlone_of_isNumeral (hf.month d)⟩, by decide⟩,
    isLeftAlone_of_isNumeral (hf.day d)⟩

theorem TimeOfDay.isLeftAlone_text (t : TimeOfDay) : IsLeftAlone (t.text f) := by
  simp only [text, isLeftAlone_append]
  exact ⟨⟨⟨⟨isLeftAlone_of_isNumeral (hf.hour t), by decide⟩,
    isLeftAlone_of_isNumeral (hf.minute t)⟩, by decide⟩, isLeftAlone_of_isNumeral (hf.second t)⟩

theorem UtcOffset.isLeftAlone_text (o : UtcOffset) : IsLeftAlone (o.text f) := by
  have hhours : IsLeftAlone (f.offsetHours o.seconds) :=
    isLeftAlone_of_isSigned (hf.offsetHours o) (by split <;> decide)
  simp only [text, isLeftAlone_append]
  exact ⟨⟨hhours, by decide⟩, isLeftAlone_of_isNumeral (hf.offsetMinutes o)⟩

/-- The body of a date-time has digits, signs and marks, none of which is rewritten. -/
theorem DateTime.isLeftAlone_body (d : Dialect) (t : DateTime) : IsLeftAlone (t.body d f) := by
  have hspace : IsLeftAlone " " := by decide
  have hlocal : IsLeftAlone (t.localText f) := by
    simp only [localText, isLeftAlone_append]
    exact ⟨⟨t.date.isLeftAlone_text hf, hspace⟩, t.time.isLeftAlone_text hf⟩
  cases d with
  | postgresql =>
    simp only [body, offsetText, isLeftAlone_append]
    exact ⟨⟨hlocal, hspace⟩, t.offset.isLeftAlone_text hf⟩
  | sqlite =>
    simp only [body, isoText, isLeftAlone_append]
    exact ⟨⟨⟨t.date.isLeftAlone_text hf, by decide⟩, t.time.isLeftAlone_text hf⟩,
      t.offset.isLeftAlone_text hf⟩
  | _ => exact hlocal

end

/-- A literal is the body between two texts that are the same for all date-times. -/
theorem Style.exists_around_body (d : Dialect) :
    ∃ opening closing : String, ∀ t : DateTime,
      (standard d).dateTime t = opening ++ t.body d ++ closing := by
  have hquote (t : DateTime) : (standard d).quote (t.body d) = "'" ++ t.body d ++ "'" := by
    have hbody : Escaper.standard d (t.body d) = t.body d :=
      standard_neutral d (t.isLeftAlone_body Formatter.standard_lawful d)
    show "'" ++ Escaper.standard d (t.body d) ++ "'" = _
    rw [hbody]
  by_cases horacle : d = .oracle
  · refine ⟨"TO_TIMESTAMP(" ++ "'", "'" ++ ", 'YYYY-MM-DD HH24:MI:SS')", fun t => ?_⟩
    have hliteral : (standard d).dateTime t =
        "TO_TIMESTAMP(" ++ (standard d).quote (t.body d) ++ ", 'YYYY-MM-DD HH24:MI:SS')" :=
      if_pos horacle
    rw [hliteral, hquote]
    simp only [String.append_assoc]
  · refine ⟨"'", "'", fun t => ?_⟩
    have hliteral : (standard d).dateTime t = (standard d).quote (t.body d) := if_neg horacle
    rw [hliteral, hquote]

namespace DateTime

section

variable {t u : DateTime} (hoffset : t.offset = u.offset)
  (ht : 0 ≤ t.date.year) (hu : 0 ≤ u.date.year)
include hoffset ht hu

/-- The literals of one dialect are in the order of time, up to fractions of a second. -/
theorem literal_lt_iff (d : Dialect) :
    (Style.standard d).dateTime t < (Style.standard d).dateTime u ↔
      t.toSecond.instant < u.toSecond.instant := by
  have hlawful := Formatter.standard_lawful
  obtain ⟨opening, closing, hliteral⟩ := Style.exists_around_body d
  have hlt : opening ++ t.body d ++ closing < opening ++ u.body d ++ closing ↔
      (opening ++ t.body d ++ closing).toList < (opening ++ u.body d ++ closing).toList := Iff.rfl
  rw [hliteral, hliteral, hlt]
  simp only [String.toList_append, List.append_assoc]
  rw [append_left_lt_iff, append_right_lt_iff (length_body hlawful hoffset ht hu d),
    body_lt_iff hlawful hoffset ht hu d]

/-- **Literals of date-times sort as time does.** Two date-times with one offset, in the years 0 to
9999, are written in every dialect, and the literals compare character by character as the instants
of their full seconds do. So they are equal exactly if the date-times agree to the second. -/
theorem literals_sort_as_time (d : Dialect) :
    ∃ a b, (Style.standard d).literal (.dateTime t) = .ok a ∧
      (Style.standard d).literal (.dateTime u) = .ok b ∧
      compare a b = compare t.toSecond.instant u.toSecond.instant ∧
      (a = b ↔ t.toSecond = u.toSecond) := by
  have hlt := literal_lt_iff hoffset ht hu d
  have hgt := literal_lt_iff hoffset.symm hu ht d
  refine ⟨_, _, rfl, rfl, compare_eq_of_lt_iff hlt hgt, ?_⟩
  rw [eq_iff_of_lt_iff hlt hgt, instant_toSecond_inj hoffset]

end

/-- The last second of a year of three digits and the next one, and two fractions of one second. -/
theorem literals_sort_as_time_new_year :
    let last : DateTime := ⟨⟨999, 12, 31, by decide, by decide, by decide⟩,
      ⟨23, 59, 59, 999999999, by decide, by decide, by decide, by decide⟩, ⟨-1830, by decide⟩⟩
    let first : DateTime := ⟨⟨1000, 1, 1, by decide, by decide, by decide⟩,
      ⟨0, 0, 0, 0, by decide, by decide, by decide, by decide⟩, ⟨-1830, by decide⟩⟩
    let later : DateTime := { first with
      time := ⟨0, 0, 0, 7, by decide, by decide, by decide, by decide⟩ }
    last.offset = first.offset ∧ first.offset = later.offset ∧ 0 ≤ last.date.year ∧
      0 ≤ first.date.year ∧ 0 ≤ later.date.year ∧
      compare "'0999-12-31T23:59:59-00:30'" "'1000-01-01T00:00:00-00:30'" =
        compare last.toSecond.instant first.toSecond.instant ∧
      last.toSecond.instant < first.toSecond.instant ∧
      ∃ a, (Style.standard .oracle).literal (.dateTime first) = .ok a ∧
        (Style.standard .oracle).literal (.dateTime later) = .ok a := by
  intro last first later
  have hoffset : last.offset = first.offset := rfl
  have hoffset' : first.offset = later.offset := rfl
  have hlast : 0 ≤ last.date.year := by decide
  have hfirst : 0 ≤ first.date.year := by decide
  have hlater : 0 ≤ later.date.year := by decide
  obtain ⟨a, b, ha, hb, hcompare, -⟩ :=
    literals_sort_as_time hoffset hlast hfirst .sqlite
  obtain ⟨c, c', hc, hc', -, hequal⟩ :=
    literals_sort_as_time hoffset' hfirst hlater .oracle
  have htext : (Style.standard .sqlite).dateTime last = "'0999-12-31T23:59:59-00:30'" := by
    decide +kernel
  have htext' : (Style.standard .sqlite).dateTime first = "'1000-01-01T00:00:00-00:30'" := by
    decide +kernel
  obtain rfl := (Except.ok.inj ha).symm.trans htext
  obtain rfl := (Except.ok.inj hb).symm.trans htext'
  obtain rfl := hequal.mpr rfl
  exact ⟨rfl, rfl, hlast, hfirst, hlater, hcompare, by decide +kernel, c, hc, hc'⟩

end DateTime

end DialectSql
