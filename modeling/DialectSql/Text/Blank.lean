/-!
# Blank characters

`isBlank` is the Unicode property `White_Space`. On it rest `trim`, which drops the blanks at both
ends of a text, `words`, its maximal runs of non-blank characters, and `singleSpaced`, the words
with one space between neighbours. A trimmed text does not change when it is trimmed again
(`trim_trim`).
-/

set_option autoImplicit false

namespace DialectSql.Text

/-- The Unicode property `White_Space`, which twenty-five characters have. -/
def isBlank (c : Char) : Bool :=
  let n := c.toNat
  (0x09 ≤ n && n ≤ 0x0D) || n == 0x20 || n == 0x85 || n == 0xA0 || n == 0x1680 ||
    (0x2000 ≤ n && n ≤ 0x200A) || n == 0x2028 || n == 0x2029 || n == 0x202F || n == 0x205F ||
    n == 0x3000

/-- The characters from the first non-blank one to the last. -/
def trimChars (cs : List Char) : List Char :=
  ((cs.dropWhile isBlank).reverse.dropWhile isBlank).reverse

/-- The text without the blanks at its two ends. -/
def trim (s : String) : String := String.ofList (trimChars s.toList)

/-- The maximal runs of non-blank characters, in order. -/
def words (s : String) : List String :=
  ((s.toList.splitOnP isBlank).filter (! ·.isEmpty)).map String.ofList

/-- The words of a text with a single space between neighbours. -/
def singleSpaced (s : String) : String := " ".intercalate (words s)

/-- The trimmed text, unless nothing is left of it. -/
def nonblank? (s : String) : Option String :=
  if trim s = "" then none else some (trim s)

/-- A text of ASCII letters is compared and shown in upper case; other letters stay as they are. -/
def upper (s : String) : String := String.ofList (s.toList.map Char.toUpper)

theorem toList_trim (s : String) : (trim s).toList = trimChars s.toList := String.toList_ofList

/-- What is left when blanks are dropped does not start with one. -/
theorem dropWhile_isBlank_dropWhile (cs : List Char) :
    (cs.dropWhile isBlank).dropWhile isBlank = cs.dropWhile isBlank := by
  induction cs with
  | nil => rfl
  | cons c cs ih =>
    by_cases h : isBlank c
    · simp [h, ih]
    · simp [h]

/-- Dropping leading blanks commutes with dropping trailing ones. -/
theorem dropWhile_trimChars (cs : List Char) :
    (trimChars cs).dropWhile isBlank = trimChars cs := by
  cases h : cs.dropWhile isBlank with
  | nil => simp [trimChars, h]
  | cons c r =>
    have hc : isBlank c = false := by
      have := List.head?_dropWhile_not isBlank cs
      rw [h] at this
      simpa using this
    suffices ∃ t, trimChars cs = c :: t by
      obtain ⟨t, ht⟩ := this
      simp [ht, hc]
    refine ⟨(r.reverse.dropWhile isBlank).reverse, ?_⟩
    rw [trimChars, h, List.reverse_cons, List.dropWhile_append]
    split
    · next he => simp [List.isEmpty_iff.mp he, hc]
    · simp

theorem trimChars_trimChars (cs : List Char) : trimChars (trimChars cs) = trimChars cs := by
  rw [trimChars, dropWhile_trimChars, trimChars, List.reverse_reverse,
    dropWhile_isBlank_dropWhile]

/-- Trimming is idempotent. -/
@[simp] theorem trim_trim (s : String) : trim (trim s) = trim s := by
  simp [trim, trimChars_trimChars]

@[simp] theorem trim_empty : trim "" = "" := rfl

/-- A text of `nonblank?` is trimmed and not empty. -/
theorem nonblank?_eq_some_iff {s t : String} :
    nonblank? s = some t ↔ trim s = t ∧ t ≠ "" := by
  unfold nonblank?
  split
  · next h => simp only [reduceCtorEq, false_iff, not_and]; rintro rfl hne; exact hne h
  · next h => simp only [Option.some.injEq]; exact ⟨fun e => ⟨e, e ▸ h⟩, And.left⟩

end DialectSql.Text
