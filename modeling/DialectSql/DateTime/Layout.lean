import DialectSql.DateTime.Basic
import DialectSql.Dialect.Basic
import DialectSql.Text.Numeral

/-!
# Texts of dates and times

The layouts of dates and times in the dialects. A layout is put together from the components of a
date-time, which a `Formatter` writes, and from fixed marks between them. The standard one writes a
month, day, hour, minute or second in two digits, and a year in at least four, with a minus sign in
front of a negative one. An offset has the sign of the whole offset, two digits of hours and two of
minutes; its seconds are left out, and so is the fraction of a second.
-/

set_option autoImplicit false

namespace DialectSql

open Text

/-- The texts of the components of a date-time. -/
structure Formatter where
  year : Int → String
  /-- A month, day, hour, minute or second, or a year within its century. -/
  field : Nat → String
  /-- The sign and the hours of an offset, given in seconds. -/
  offsetHours : Int → String
  /-- The minutes of an offset, given in seconds, without a sign. -/
  offsetMinutes : Int → String

/-- The formatter that fills numbers up with zeros. -/
def Formatter.standard : Formatter where
  year y := (if y < 0 then "-" else "") ++ zeroPadded 4 y.natAbs
  field := zeroPadded 2
  offsetHours s := (if s < 0 then "-" else "+") ++ zeroPadded 2 (s.natAbs / 3600)
  offsetMinutes s := zeroPadded 2 (s.natAbs / 60 % 60)

/-- Year, month and day with hyphens between them. -/
def CivilDate.text (d : CivilDate) (f : Formatter := .standard) : String :=
  f.year d.year ++ "-" ++ f.field d.month ++ "-" ++ f.field d.day

/-- The first three letters of the name of a month. -/
def monthWord : Nat → String
  | 1 => "Jan"
  | 2 => "Feb"
  | 3 => "Mar"
  | 4 => "Apr"
  | 5 => "May"
  | 6 => "Jun"
  | 7 => "Jul"
  | 8 => "Aug"
  | 9 => "Sep"
  | 10 => "Oct"
  | 11 => "Nov"
  | _ => "Dec"

/-- Day, short name of the month and the last two digits of the year with hyphens between them. -/
def CivilDate.shortText (d : CivilDate) (f : Formatter := .standard) : String :=
  f.field d.day ++ "-" ++ monthWord d.month ++ "-" ++ f.field (d.year.natAbs % 100)

/-- Hour, minute and second with colons between them. -/
def TimeOfDay.text (t : TimeOfDay) (f : Formatter := .standard) : String :=
  f.field t.hour ++ ":" ++ f.field t.minute ++ ":" ++ f.field t.second

/-- The sign, the hours and the minutes of an offset. -/
def UtcOffset.text (o : UtcOffset) (f : Formatter := .standard) : String :=
  f.offsetHours o.seconds ++ ":" ++ f.offsetMinutes o.seconds

namespace DateTime

/-- The local date and time, a space between them. -/
def localText (t : DateTime) (f : Formatter := .standard) : String :=
  t.date.text f ++ " " ++ t.time.text f

/-- The local date and time and, after a space, the offset. -/
def offsetText (t : DateTime) (f : Formatter := .standard) : String :=
  t.localText f ++ " " ++ t.offset.text f

/-- The local date and time with a `T` between them, and the offset directly after them. -/
def isoText (t : DateTime) (f : Formatter := .standard) : String :=
  t.date.text f ++ "T" ++ t.time.text f ++ t.offset.text f

/-- What stands between the quotes of a date-time literal. -/
def body (d : Dialect) (t : DateTime) (f : Formatter := .standard) : String :=
  match d with
  | .postgresql => t.offsetText f
  | .sqlite => t.isoText f
  | _ => t.localText f

/-- A date as the database takes it directly. -/
def dateText (d : Dialect) (t : DateTime) (f : Formatter := .standard) : String :=
  match d with
  | .oracle => t.date.shortText f
  | .sqlite => t.isoText f
  | _ => t.date.text f

end DateTime

/-- A time of day without the marks `T` that may lead it. -/
def clockText (time : String) : String :=
  String.ofList (time.toList.dropWhile (· == 'T'))

end DialectSql
