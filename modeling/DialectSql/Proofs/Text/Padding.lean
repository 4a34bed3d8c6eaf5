import DialectSql.Text.Numeral
import Mathlib.Algebra.GroupWithZero.Nat

/-!
# Numerals of fixed width

A numeral of a width has as many characters, all of them digits, and denotes a number
(`IsNumeral`). There may be a sign in front of it (`IsSigned`). A number that fits into the width
has a numeral: the number itself, filled up with zeros (`isNumeral_zeroPadded`).
-/

set_option autoImplicit false

namespace DialectSql.Text

/-- The text consists of `width` digits and denotes the number. -/
structure IsNumeral (width n : Nat) (text : String) : Prop where
  isDigit : ∀ c ∈ text.toList, c.isDigit = true
  length : text.toList.length = width
  value : Nat.ofDigitChars 10 text.toList 0 = n

/-- The text is a sign with a numeral behind it. -/
def IsSigned (sign : String) (width n : Nat) (text : String) : Prop :=
  ∃ digits, text = sign ++ digits ∧ IsNumeral width n digits

/-- A numeral of some width is not empty. -/
theorem IsNumeral.ne_nil {width n : Nat} {text : String} (h : IsNumeral width n text)
    (hwidth : 0 < width) : text.toList ≠ [] :=
  List.ne_nil_of_length_pos (h.length ▸ hwidth)

theorem isDigit_of_mem_zeroPadded {width n : Nat} {c : Char}
    (hc : c ∈ (zeroPadded width n).toList) : c.isDigit = true := by
  rw [toList_zeroPadded, List.leftpad, List.mem_append] at hc
  rcases hc with hzero | hdigit
  · rw [List.eq_of_mem_replicate hzero]
    rfl
  · exact Nat.isDigit_of_mem_toDigits (by decide) (by decide) hdigit

/-- Nothing is filled up beyond the width, which the digits of the number do not exceed. -/
theorem length_zeroPadded {width n : Nat} (hwidth : 0 < width) (hn : n < 10 ^ width) :
    (zeroPadded width n).toList.length = width := by
  rw [toList_zeroPadded, List.length_leftpad]
  exact Nat.max_eq_left ((Nat.length_toDigits_le_iff (by decide) hwidth).mpr hn)

/-- Zeros in front do not change the value. -/
theorem ofDigitChars_zeroPadded (width n : Nat) :
    Nat.ofDigitChars 10 (zeroPadded width n).toList 0 = n := by
  rw [toList_zeroPadded, List.leftpad, Nat.ofDigitChars_append, Nat.ofDigitChars_replicate_zero,
    Nat.mul_zero, Nat.ofDigitChars_ten_toDigits]

/-- A number that fits into the width has a numeral of that width. -/
theorem isNumeral_zeroPadded {width n : Nat} (hwidth : 0 < width) (hn : n < 10 ^ width) :
    IsNumeral width n (zeroPadded width n) where
  isDigit _ hc := isDigit_of_mem_zeroPadded hc
  length := length_zeroPadded hwidth hn
  value := ofDigitChars_zeroPadded width n

end DialectSql.Text
