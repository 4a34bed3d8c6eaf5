import DialectSql.Proofs.DateTime.Formatter
import DialectSql.Proofs.LiteralReader

/-!
# Reading a date-time with its offset

A database reads a date-time as `[-]YYYY-MM-DD`, a space or a `T`, `hh:mm:ss`, maybe a space, and
an offset `+HH:MM` or `-HH:MM`, which ends the text. `read` does so. It does not know how date-times
are written, and it refuses what is no day of the calendar, no time of day or no offset.

What is read from a date-time that a lawful formatter has written with its offset is
`DateTime.legible` (`read_body`): the fraction of the second is gone, and so are the seconds of
the offset. The first is what a database takes to be the same time, but a clock whose offset has
seconds shows another instant without them. The main statement `instant_of_body` says by how much.
-/

set_option autoImplicit false

namespace DialectSql

open Text

/-! ## Layouts in characters -/

section

variable (f : Formatter)

theorem CivilDate.toList_text (d : CivilDate) :
    (d.text f).toList = (f.year d.year).toList ++
      '-' :: ((f.field d.month).toList ++ '-' :: (f.field d.day).toList) := by
  simp [text, String.toList_append]

theorem TimeOfDay.toList_text (t : TimeOfDay) :
    (t.text f).toList = (f.field t.hour).toList ++
      ':' :: ((f.field t.minute).toList ++ ':' :: (f.field t.second).toList) := by
  simp [text, String.toList_append]

theorem UtcOffset.toList_text (o : UtcOffset) :
    (o.text f).toList =
      (f.offsetHours o.seconds).toList ++ ':' :: (f.offsetMinutes o.seconds).toList := by
  simp [text, String.toList_append]

theorem DateTime.toList_offsetText (t : DateTime) :
    (t.offsetText f).toList =
      (t.date.text f).toList ++
        ' ' :: ((t.time.text f).toList ++ ' ' :: (t.offset.text f).toList) := by
  simp [offsetText, localText, String.toList_append]

theorem DateTime.toList_isoText (t : DateTime) :
    (t.isoText f).toList =
      (t.date.text f).toList ++ 'T' :: ((t.time.text f).toList ++ (t.offset.text f).toList) := by
  simp [isoText, String.toList_append]

end

/-! ## What a text can say -/

/-- The time of day without the fraction of its second. -/
def TimeOfDay.toSecond (t : TimeOfDay) : TimeOfDay :=
  { t with nanosecond := 0, nanosecond_lt := by decide }

/-- The offset without its seconds. -/
def UtcOffset.toMinute (o : UtcOffset) : UtcOffset where
  seconds := o.seconds.tdiv 60 * 60
  bounds := by
    have h := o.bounds
    rw [Int.natAbs_mul, Int.natAbs_tdiv]
    exact Nat.lt_of_le_of_lt (Nat.div_mul_le_self _ _) h

/-- To the east the hours and minutes of an offset are added. -/
theorem UtcOffset.toMinute_of_nonneg {o : UtcOffset} (h : 0 ≤ o.seconds) :
    o.toMinute.seconds = 1 * (o.seconds.natAbs / 60 : Nat) * 60 := by
  show o.seconds.tdiv 60 * 60 = _
  rw [Int.tdiv_eq_ediv_of_nonneg h]
  omega

/-- To the west the hours and minutes of an offset are taken off. -/
theorem UtcOffset.toMinute_of_neg {o : UtcOffset} (h : o.seconds < 0) :
    o.toMinute.seconds = -1 * (o.seconds.natAbs / 60 : Nat) * 60 := by
  have hneg : (-o.seconds).tdiv 60 = -o.seconds / 60 :=
    Int.tdiv_eq_ediv_of_nonneg (Int.neg_nonneg_of_nonpos (Int.le_of_lt h))
  rw [Int.neg_tdiv] at hneg
  show o.seconds.tdiv 60 * 60 = _
  omega

/-- What a text in full seconds with an offset of hours and minutes says of a date-time. -/
def DateTime.legible (t : DateTime) : DateTime := ⟨t.date, t.time.toSecond, t.offset.toMinute⟩

/-- The seconds of an offset are those by which the instant is read too late, or too early if they
are negative. -/
theorem DateTime.instant_legible (t : DateTime) :
    t.legible.instant = t.instant - t.time.nanosecond + t.offset.seconds.tmod 60 * 1000000000 := by
  have hoffset : t.offset.seconds.tmod 60 + t.offset.seconds.tdiv 60 * 60 = t.offset.seconds :=
    Int.tmod_add_tdiv_mul _ _
  simp only [instant, legible, TimeOfDay.toSecond, TimeOfDay.secondOfDay, UtcOffset.toMinute]
  omega

namespace DateTimeReader

/-! ## The reader -/

/-- A field of digits of the given number, and what follows it. -/
def readField (width : Nat) (cs : List Char) : Option (Nat × List Char) :=
  if (cs.take width).length = width ∧ (cs.take width).all Char.isDigit = true then
    some (Nat.ofDigitChars 10 (cs.take width) 0, cs.drop width)
  else none

/-- What follows the given mark. -/
def readMark (mark : Char) : List Char → Option (List Char)
  | [] => none
  | c :: cs => if c = mark then some cs else none

/-- A number of four digits or more, and what follows it. -/
def readMagnitude (cs : List Char) : Option (Nat × List Char) := do
  let (digits, rest) ← LiteralReader.takeRun Char.isDigit cs
  if 4 ≤ digits.length then some (Nat.ofDigitChars 10 digits 0, rest) else none

/-- A year, negative behind a minus sign. -/
def readYear : List Char → Option (Int × List Char)
  | '-' :: cs => (readMagnitude cs).map fun (n, rest) => (-(n : Int), rest)
  | cs => (readMagnitude cs).map fun (n, rest) => ((n : Int), rest)

/-- A day of the calendar. -/
def readDate (cs : List Char) : Option (CivilDate × List Char) := do
  let (year, cs) ← readYear cs
  let cs ← readMark '-' cs
  let (month, cs) ← readField 2 cs
  let cs ← readMark '-' cs
  let (day, cs) ← readField 2 cs
  let date ← CivilDate.ofYearMonthDay? year month day
  return (date, cs)

/-- A time of day in full seconds. -/
def readTime (cs : List Char) : Option (TimeOfDay × List Char) := do
  let (hour, cs) ← readField 2 cs
  let cs ← readMark ':' cs
  let (minute, cs) ← readField 2 cs
  let cs ← readMark ':' cs
  let (second, cs) ← readField 2 cs
  let time ← TimeOfDay.ofParts? hour minute second 0
  return (time, cs)

/-- A sign as a factor. -/
def readSign : List Char → Option (Int × List Char)
  | '+' :: cs => some (1, cs)
  | '-' :: cs => some (-1, cs)
  | _ => none

/-- An offset of hours and minutes, which have one sign. -/
def readOffset (cs : List Char) : Option (UtcOffset × List Char) := do
  let (sign, cs) ← readSign cs
  let (hours, cs) ← readField 2 cs
  let cs ← readMark ':' cs
  let (minutes, cs) ← readField 2 cs
  guard (minutes < 60)
  let offset ← UtcOffset.ofSeconds? (sign * (hours * 60 + minutes) * 60)
  return (offset, cs)

/-- The text without a space in front of it. -/
def skipSpace : List Char → List Char
  | ' ' :: cs => cs
  | cs => cs

/-- A date-time that is all of the text. -/
def read (cs : List Char) : Option DateTime := do
  let (date, cs) ← readDate cs
  let cs ← (readMark ' ' cs).or (readMark 'T' cs)
  let (time, cs) ← readTime cs
  let (offset, cs) ← readOffset (skipSpace cs)
  guard cs.isEmpty
  return ⟨date, time, offset⟩

/-! ## Components that have been written -/

/-- A numeral is read as the number that it denotes. -/
theorem readField_of_isNumeral {width n : Nat} {text : String} (h : IsNumeral width n text)
    (rest : List Char) : readField width (text.toList ++ rest) = some (n, rest) := by
  rw [readField, List.take_left' h.length, List.drop_left' h.length, h.value,
    if_pos ⟨h.length, List.all_eq_true.mpr h.isDigit⟩]

theorem readMark_cons (mark : Char) (cs : List Char) : readMark mark (mark :: cs) = some cs :=
  if_pos rfl

/-- A numeral of four digits is read up to what is no digit. -/
theorem readMagnitude_of_isNumeral {n : Nat} {text : String} (h : IsNumeral 4 n text)
    {rest : List Char} (hrest : ∀ c ∈ rest.head?, c.isDigit = false) :
    readMagnitude (text.toList ++ rest) = some (n, rest) := by
  have hrun := LiteralReader.takeRun_append (h.ne_nil (by decide)) h.isDigit hrest
  rw [readMagnitude, hrun]
  simp only [Option.bind_eq_bind, Option.bind_some, if_pos (Nat.le_of_eq h.length.symm), h.value]

/-- A numeral without a sign is read as a year that is not negative: it starts with a digit. -/
theorem readYear_of_isNumeral {n : Nat} {text : String} (h : IsNumeral 4 n text)
    {rest : List Char} (hrest : ∀ c ∈ rest.head?, c.isDigit = false) :
    readYear (text.toList ++ rest) = some ((n : Int), rest) := by
  rw [readYear, readMagnitude_of_isNumeral h hrest]
  · rfl
  · intro cs hsign
    obtain ⟨c, digits, hdigits⟩ := List.exists_cons_of_ne_nil (h.ne_nil (by decide))
    have hc : c.isDigit = true := h.isDigit c (hdigits ▸ List.mem_cons_self)
    rw [hdigits] at hsign
    cases hsign
    cases hc

section

variable {f : Formatter} (hf : f.Lawful)
include hf

/-- The year of a date is read back, with or without a sign. -/
theorem readYear_year (d : CivilDate) {rest : List Char}
    (hrest : ∀ c ∈ rest.head?, c.isDigit = false) :
    readYear ((f.year d.year).toList ++ rest) = some (d.year, rest) := by
  obtain ⟨digits, hdigits, hnumeral⟩ := hf.year d
  rw [hdigits]
  split
  · next hneg =>
    have htext : ("-" ++ digits).toList ++ rest = '-' :: (digits.toList ++ rest) := by
      simp [String.toList_append]
    rw [htext, readYear, readMagnitude_of_isNumeral hnumeral hrest]
    simp only [Option.map_some, Option.some.injEq, Prod.mk.injEq, and_true]
    omega
  · next hpos =>
    rw [String.empty_append, readYear_of_isNumeral hnumeral hrest]
    simp only [Option.some.injEq, Prod.mk.injEq, and_true]
    omega

/-- A date is read from its own text, whatever stands behind it. -/
theorem readDate_text (d : CivilDate) (rest : List Char) :
    readDate ((d.text f).toList ++ rest) = some (d, rest) := by
  have hdate : CivilDate.ofYearMonthDay? d.year d.month d.day = some d :=
    dif_pos ⟨d.year_bounds, d.day_pos, d.day_le⟩
  have hyear (cs : List Char) :
      readYear ((f.year d.year).toList ++ '-' :: cs) = some (d.year, '-' :: cs) :=
    readYear_year hf d (by simp)
  simp only [d.toList_text, List.append_assoc, List.cons_append, readDate, hyear, readMark_cons,
    readField_of_isNumeral (hf.month d), readField_of_isNumeral (hf.day d), hdate,
    Option.bind_eq_bind, Option.bind_some, Option.pure_def]

/-- A time of day is read without the fraction of its second. -/
theorem readTime_text (t : TimeOfDay) (rest : List Char) :
    readTime ((t.text f).toList ++ rest) = some (t.toSecond, rest) := by
  have htime : TimeOfDay.ofParts? t.hour t.minute t.second 0 = some t.toSecond :=
    dif_pos ⟨t.hour_lt, t.minute_lt, t.second_lt, by decide⟩
  simp only [t.toList_text, List.append_assoc, List.cons_append, readTime, readMark_cons,
    readField_of_isNumeral (hf.hour t), readField_of_isNumeral (hf.minute t),
    readField_of_isNumeral (hf.second t), htime, Option.bind_eq_bind, Option.bind_some,
    Option.pure_def]

/-- An offset with the given sign that is read from its hours and minutes. -/
theorem readOffset_signed (o : UtcOffset) {sign : Int} {mark : Char} {hours : String}
    (hhours : IsNumeral 2 (o.seconds.natAbs / 3600) hours) (rest : List Char)
    (hmark : ∀ cs, readSign (mark :: cs) = some (sign, cs))
    (hminute : o.toMinute.seconds = sign * (o.seconds.natAbs / 60 : Nat) * 60) :
    readOffset (mark :: (hours.toList ++ ':' :: ((f.offsetMinutes o.seconds).toList ++ rest))) =
      some (o.toMinute, rest) := by
  have hminutes : o.seconds.natAbs / 60 % 60 < 60 := Nat.mod_lt _ (by decide)
  have hsum : ((o.seconds.natAbs / 3600 : Nat) : Int) * 60 + (o.seconds.natAbs / 60 % 60 : Nat) =
      (o.seconds.natAbs / 60 : Nat) := by
    omega
  have hoffset : UtcOffset.ofSeconds? o.toMinute.seconds = some o.toMinute :=
    dif_pos o.toMinute.bounds
  simp only [readOffset, hmark, readMark_cons, readField_of_isNumeral hhours,
    readField_of_isNumeral (hf.offsetMinutes o), hsum, ← hminute, hoffset, hminutes, guard, if_true,
    Option.bind_eq_bind, Option.bind_some, Option.pure_def]

/-- An offset is read without its seconds. -/
theorem readOffset_text (o : UtcOffset) (rest : List Char) :
    readOffset ((o.text f).toList ++ rest) = some (o.toMinute, rest) := by
  obtain ⟨hours, hhours, hnumeral⟩ := hf.offsetHours o
  rw [o.toList_text, hhours]
  by_cases hneg : o.seconds < 0
  · rw [if_pos hneg]
    simpa using readOffset_signed hf o hnumeral rest (fun _ => rfl) (UtcOffset.toMinute_of_neg hneg)
  · rw [if_neg hneg]
    have hminute := UtcOffset.toMinute_of_nonneg (Int.not_lt.mp hneg)
    simpa using readOffset_signed hf o hnumeral rest (fun _ => rfl) hminute

/-- The sign of an offset is no space. -/
theorem skipSpace_offsetText (o : UtcOffset) : skipSpace (o.text f).toList = (o.text f).toList := by
  obtain ⟨hours, hhours, -⟩ := hf.offsetHours o
  rw [o.toList_text, hhours]
  split <;> simp [skipSpace]

/-! ## Date-times that have been written -/

/-- A text with a space in front of the offset says what is legible of the date-time. -/
theorem read_offsetText (t : DateTime) : read (t.offsetText f).toList = some t.legible := by
  have htime := readTime_text hf t.time (' ' :: (t.offset.text f).toList)
  have hspace (cs : List Char) : skipSpace (' ' :: cs) = cs := rfl
  have hoffset := readOffset_text hf t.offset []
  rw [List.append_nil] at hoffset
  simp only [t.toList_offsetText, read, readDate_text hf, readMark_cons, Option.some_or, htime,
    hspace, hoffset, List.isEmpty_nil, guard, if_true, Option.bind_eq_bind, Option.bind_some,
    Option.pure_def, DateTime.legible]

/-- A text with a `T` and the offset directly behind the time of day says the same. -/
theorem read_isoText (t : DateTime) : read (t.isoText f).toList = some t.legible := by
  have hmark (cs : List Char) : readMark ' ' ('T' :: cs) = none := rfl
  have htime := readTime_text hf t.time (t.offset.text f).toList
  have hoffset := readOffset_text hf t.offset []
  rw [List.append_nil] at hoffset
  simp only [t.toList_isoText, read, readDate_text hf, hmark, readMark_cons, Option.none_or, htime,
    skipSpace_offsetText hf, hoffset, List.isEmpty_nil, guard, if_true, Option.bind_eq_bind,
    Option.bind_some, Option.pure_def, DateTime.legible]

/-- The dialects whose bodies have an offset write what is read as the legible date-time. -/
theorem read_body {d : Dialect} (hd : d = .postgresql ∨ d = .sqlite) (t : DateTime) :
    read (t.body d f).toList = some t.legible := by
  rcases hd with rfl | rfl
  · exact read_offsetText hf t
  · exact read_isoText hf t

end

/-- In PostgreSQL and SQLite the text of a date-time, read back, denotes the instant of the
date-time, but for the fraction of its second, exactly if the offset has no seconds. In general the
instant that is read differs by the seconds of the offset, with their sign: they are not written. -/
theorem instant_of_body {d : Dialect} (hd : d = .postgresql ∨ d = .sqlite) (t : DateTime) :
    ∃ r : DateTime, read (t.body d).toList = some r ∧
      r.instant = t.instant - t.time.nanosecond + t.offset.seconds.tmod 60 * 1000000000 ∧
      (r.instant = t.instant - t.time.nanosecond ↔ t.offset.seconds.tmod 60 = 0) := by
  have hread : read (t.body d).toList = some t.legible :=
    read_body Formatter.standard_lawful hd t
  have hinstant := t.instant_legible
  refine ⟨t.legible, hread, hinstant, ?_⟩
  omega

/-- An offset of less than an hour behind universal time, in a year before the year 0. -/
theorem instant_of_body_before_common_era :
    let t : DateTime := ⟨⟨-44, 3, 15, by decide, by decide, by decide⟩,
      ⟨23, 59, 59, 7, by decide, by decide, by decide, by decide⟩, ⟨-1800, by decide⟩⟩
    t.body .sqlite = "-0044-03-15T23:59:59-00:30" ∧ t.offset.seconds.tmod 60 = 0 ∧
      ∃ r : DateTime, read "-0044-03-15T23:59:59-00:30".toList = some r ∧
        r.instant = t.instant - 7 := by
  intro t
  have hbody : t.body .sqlite = "-0044-03-15T23:59:59-00:30" := by decide +kernel
  have hminutes : t.offset.seconds.tmod 60 = 0 := by decide
  obtain ⟨r, hread, -, hinstant⟩ := instant_of_body (Or.inr rfl : Dialect.sqlite = _ ∨ _) t
  rw [hbody] at hread
  exact ⟨hbody, hminutes, r, hread, hinstant.mpr hminutes⟩

/-- Half a minute is lost with the seconds of an offset: the clock is read as one that is not ahead
at all. -/
theorem instant_of_body_half_minute :
    let t : DateTime := ⟨⟨2024, 3, 5, by decide, by decide, by decide⟩,
      ⟨10, 20, 30, 0, by decide, by decide, by decide, by decide⟩, ⟨30, by decide⟩⟩
    let r : DateTime := { t with offset := ⟨0, by decide⟩ }
    t.body .postgresql = "2024-03-05 10:20:30 +00:00" ∧
      read (t.body .postgresql).toList = some r ∧ r.instant = t.instant + 30000000000 ∧
      r.instant ≠ t.instant - t.time.nanosecond := by
  intro t r
  exact ⟨by decide +kernel, by decide +kernel, by decide +kernel, by decide +kernel⟩

end DateTimeReader

end DialectSql
