/-!
# Decimal numerals of fixed width

Date and time fields are written in decimal with zeros in front up to a least width.
-/

set_option autoImplicit false

namespace DialectSql.Text

/-- The decimal numeral of `n`, with zeros in front of it up to `width` characters. -/
def zeroPadded (width n : Nat) : String :=
  String.ofList ((Nat.toDigits 10 n).leftpad width '0')

theorem toList_zeroPadded (width n : Nat) :
    (zeroPadded width n).toList = (Nat.toDigits 10 n).leftpad width '0' := String.toList_ofList

end DialectSql.Text
