import DialectSql.Proofs.Text.Padding
import Mathlib.Data.Nat.Basic
import Mathlib.Order.Lattice

/-!
# The order of texts

Texts are compared character by character. Two texts that start with fields of one length are
compared field by field (`append_lt_append_iff`), and digits of one length compare as the numbers
they denote (`lt_iff_ofDigitChars_lt`). So numerals of one width sort as the numbers do
(`IsNumeral.lt_iff`), and a number has one of them at most (`IsNumeral.eq_iff`).
-/

set_option autoImplicit false

namespace DialectSql.Text

/-- What stands behind fields of one length counts if the fields are equal. -/
theorem append_lt_append_iff {xs ys : List Char} (h : xs.length = ys.length)
    (xs' ys' : List Char) : xs ++ xs' < ys ++ ys' ↔ xs < ys ∨ xs = ys ∧ xs' < ys' := by
  induction xs generalizing ys with
  | nil =>
    obtain rfl := List.length_eq_zero_iff.mp h.symm
    simp
  | cons x xs ih =>
    cases ys with
    | nil => cases h
    | cons y ys =>
      rw [List.cons_append, List.cons_append, List.cons_lt_cons_iff, List.cons_lt_cons_iff,
        ih (Nat.succ.inj h), List.cons.injEq, and_or_left, or_assoc, and_assoc]

theorem append_left_lt_iff (zs xs ys : List Char) : zs ++ xs < zs ++ ys ↔ xs < ys := by
  rw [append_lt_append_iff rfl, or_iff_right (List.lt_irrefl zs), and_iff_right rfl]

theorem append_right_lt_iff {xs ys : List Char} (h : xs.length = ys.length) (zs : List Char) :
    xs ++ zs < ys ++ zs ↔ xs < ys := by
  rw [append_lt_append_iff h, or_iff_left fun hequal => List.lt_irrefl zs hequal.2]

/-- Texts that sort as numbers do are equal if the numbers are. -/
theorem eq_iff_of_lt_iff {α : Type} [LinearOrder α] {a b : String} {x y : α}
    (hlt : a < b ↔ x < y) (hgt : b < a ↔ y < x) : a = b ↔ x = y := by
  constructor
  · rintro rfl
    have hnot := mt hlt.mpr (String.lt_irrefl a)
    have hnot' := mt hgt.mpr (String.lt_irrefl a)
    exact le_antisymm (not_lt.mp hnot') (not_lt.mp hnot)
  · rintro rfl
    have hnot := mt hlt.mp (lt_irrefl x)
    have hnot' := mt hgt.mp (lt_irrefl x)
    exact String.le_antisymm (String.not_lt.mp hnot') (String.not_lt.mp hnot)

/-! ## Digits -/

theorem toNat_bounds_of_isDigit {c : Char} (h : c.isDigit = true) : 48 ≤ c.toNat ∧ c.toNat ≤ 57 :=
  Char.isDigit_iff_toNat.mp h

/-- The first digit counts by its place. -/
theorem ofDigitChars_cons_zero (c : Char) (cs : List Char) :
    Nat.ofDigitChars 10 (c :: cs) 0 =
      10 ^ cs.length * (c.toNat - 48) + Nat.ofDigitChars 10 cs 0 := by
  rw [Nat.ofDigitChars_cons, Nat.mul_zero, Nat.zero_add, Nat.ofDigitChars_eq_ofDigitChars_zero]
  rfl

/-- Digits denote a number below the power of ten for their count. -/
theorem ofDigitChars_lt_pow {cs : List Char} (h : ∀ c ∈ cs, c.isDigit = true) :
    Nat.ofDigitChars 10 cs 0 < 10 ^ cs.length := by
  induction cs with
  | nil => decide
  | cons c cs ih =>
    have hrest := ih fun x hx => h x (List.mem_cons_of_mem c hx)
    have hdigit : c.toNat - 48 + 1 ≤ 10 := by
      have hc := (toNat_bounds_of_isDigit (h c List.mem_cons_self)).2
      omega
    rw [ofDigitChars_cons_zero, List.length_cons]
    calc 10 ^ cs.length * (c.toNat - 48) + Nat.ofDigitChars 10 cs 0
        < 10 ^ cs.length * (c.toNat - 48) + 10 ^ cs.length := Nat.add_lt_add_left hrest _
      _ = 10 ^ cs.length * (c.toNat - 48 + 1) := rfl
      _ ≤ 10 ^ cs.length * 10 := Nat.mul_le_mul_left _ hdigit

/-- Of two numbers with remainders below the place value, the leading parts are compared first. -/
theorem mul_add_lt_mul_add_iff {place m n r s : Nat} (hr : r < place) (hs : s < place) :
    place * m + r < place * n + s ↔ m < n ∨ m = n ∧ r < s := by
  rcases Nat.lt_trichotomy m n with hlt | rfl | hgt
  · have hplace : place * (m + 1) ≤ place * n := Nat.mul_le_mul_left place hlt
    rw [Nat.mul_succ] at hplace
    exact iff_of_true (by omega) (Or.inl hlt)
  · omega
  · have hplace : place * (n + 1) ≤ place * m := Nat.mul_le_mul_left place hgt
    rw [Nat.mul_succ] at hplace
    exact iff_of_false (by omega) (by omega)

/-- Digits of one length compare as the numbers they denote. -/
theorem lt_iff_ofDigitChars_lt {cs ds : List Char} (hlength : cs.length = ds.length)
    (hcs : ∀ c ∈ cs, c.isDigit = true) (hds : ∀ d ∈ ds, d.isDigit = true) :
    cs < ds ↔ Nat.ofDigitChars 10 cs 0 < Nat.ofDigitChars 10 ds 0 := by
  induction cs generalizing ds with
  | nil =>
    obtain rfl := List.length_eq_zero_iff.mp hlength.symm
    exact iff_of_false (List.lt_irrefl []) (Nat.lt_irrefl _)
  | cons c cs ih =>
    cases ds with
    | nil => cases hlength
    | cons d ds =>
      obtain ⟨hc, hcs'⟩ := List.forall_mem_cons.mp hcs
      obtain ⟨hd, hds'⟩ := List.forall_mem_cons.mp hds
      have hlength' : cs.length = ds.length := Nat.succ.inj hlength
      have hrest := ofDigitChars_lt_pow hds'
      rw [← hlength'] at hrest
      have hc' := (toNat_bounds_of_isDigit hc).1
      have hd' := (toNat_bounds_of_isDigit hd).1
      have hfirst : c < d ↔ c.toNat - 48 < d.toNat - 48 := by
        have hcd : c < d ↔ c.toNat < d.toNat := UInt32.lt_iff_toNat_lt
        rw [hcd]
        omega
      have hequal : c = d ↔ c.toNat - 48 = d.toNat - 48 := by
        rw [← Char.toNat_inj]
        omega
      rw [List.cons_lt_cons_iff, ofDigitChars_cons_zero, ofDigitChars_cons_zero, ← hlength',
        mul_add_lt_mul_add_iff (ofDigitChars_lt_pow hcs') hrest, ih hlength' hcs' hds', hfirst,
        hequal]

/-! ## Numerals of fixed width -/

namespace IsNumeral

variable {width m n : Nat} {a b : String} (ha : IsNumeral width m a) (hb : IsNumeral width n b)
include ha hb

/-- Numerals of one width sort as the numbers do. -/
theorem lt_iff : a.toList < b.toList ↔ m < n := by
  rw [lt_iff_ofDigitChars_lt (ha.length.trans hb.length.symm) ha.isDigit hb.isDigit, ha.value,
    hb.value]

/-- A number has no two numerals of one width. -/
theorem eq_iff : a = b ↔ m = n := eq_iff_of_lt_iff (ha.lt_iff hb) (hb.lt_iff ha)

/-- A numeral, a mark and more: the mark does not count, and what follows it counts if the numbers
are equal. -/
theorem append_lt_iff (mark : Char) (xs ys : List Char) :
    a.toList ++ mark :: xs < b.toList ++ mark :: ys ↔ m < n ∨ m = n ∧ xs < ys := by
  rw [append_lt_append_iff (ha.length.trans hb.length.symm), ha.lt_iff hb, String.toList_inj,
    ha.eq_iff hb, List.cons_lt_cons_self]

end IsNumeral

/-- A number has no two numerals of one width behind the same sign. -/
theorem IsSigned.eq {sign a b : String} {width n : Nat} (ha : IsSigned sign width n a)
    (hb : IsSigned sign width n b) : a = b := by
  obtain ⟨digits, rfl, hdigits⟩ := ha
  obtain ⟨digits', rfl, hdigits'⟩ := hb
  rw [(hdigits.eq_iff hdigits').mpr rfl]

end DialectSql.Text
