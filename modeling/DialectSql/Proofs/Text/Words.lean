import DialectSql.Proofs.Text.Splitting

/-!
# Letter case and words

Two texts that differ in the case of ASCII letters are the same in upper case, and neither trimming
a text nor taking its words looks at the case (`trim_upper`, `words_upper`). Which blanks stand
between two words, and how many, does not change them (`words_append_gap_append`), so that a text
has the words of its trimmed text.

A word is read by trimming a text or by taking its only word, with the same result
(`trim_eq_iff_singleSpaced_eq`).
-/

set_option autoImplicit false

namespace DialectSql.Text

/-! ## Letter case -/

/-- The capital of a small ASCII letter lies 32 before it, and other characters stay. -/
theorem toNat_toUpper (c : Char) :
    c.toUpper.toNat = if 97 ≤ c.toNat ∧ c.toNat ≤ 122 then c.toNat - 32 else c.toNat := by
  unfold Char.toUpper
  simp only [UInt32.le_iff_toNat_le]
  split
  · next h =>
    have hlower : 97 ≤ c.toNat ∧ c.toNat ≤ 122 := h
    -- The difference of the two cases is negative, so the sum goes around the end of a word.
    have hsum : (c.val + ('A'.val - 'a'.val)).toNat = (c.toNat + 4294967264) % 4294967296 := by
      rw [UInt32.toNat_add]
      rfl
    rw [if_pos hlower, ← Char.toNat_val, hsum]
    omega
  · next h =>
    have hlower : ¬ (97 ≤ c.toNat ∧ c.toNat ≤ 122) := h
    rw [if_neg hlower]

/-- The small letter of an ASCII capital lies 32 behind it, and other characters stay. -/
theorem toNat_toLower (c : Char) :
    c.toLower.toNat = if 65 ≤ c.toNat ∧ c.toNat ≤ 90 then c.toNat + 32 else c.toNat := by
  unfold Char.toLower
  simp only [ge_iff_le, UInt32.le_iff_toNat_le]
  split
  · next h =>
    have hupper : 65 ≤ c.toNat ∧ c.toNat ≤ 90 := h
    have hsum : (c.val + ('a'.val - 'A'.val)).toNat = (c.toNat + 32) % 4294967296 := by
      rw [UInt32.toNat_add]
      rfl
    rw [if_pos hupper, ← Char.toNat_val, hsum]
    omega
  · next h =>
    have hupper : ¬ (65 ≤ c.toNat ∧ c.toNat ≤ 90) := h
    rw [if_neg hupper]

theorem isUpper_iff_toNat (c : Char) : c.isUpper = true ↔ 65 ≤ c.toNat ∧ c.toNat ≤ 90 :=
  decide_eq_true_iff.trans (and_congr UInt32.le_iff_toNat_le UInt32.le_iff_toNat_le)

theorem isLower_iff_toNat (c : Char) : c.isLower = true ↔ 97 ≤ c.toNat ∧ c.toNat ≤ 122 :=
  Bool.and_eq_true_iff.trans
    (and_congr (decide_eq_true_iff.trans UInt32.le_iff_toNat_le)
      (decide_eq_true_iff.trans UInt32.le_iff_toNat_le))

/-- A character is made a capital letter from that letter or from its small one. -/
theorem toUpper_eq_iff {w : Char} (hw : w.isUpper = true) (c : Char) :
    c.toUpper = w ↔ c = w ∨ c = w.toLower := by
  rw [isUpper_iff_toNat] at hw
  rw [← Char.toNat_inj, ← Char.toNat_inj, ← Char.toNat_inj, toNat_toUpper, toNat_toLower,
    if_pos hw]
  split <;> omega

/-- A character that is no letter is made from itself only. -/
theorem toUpper_eq_iff_of_not_isAlpha {w : Char} (hw : w.isAlpha = false) (c : Char) :
    c.toUpper = w ↔ c = w := by
  obtain ⟨hupper, hlower⟩ := Bool.or_eq_false_iff.mp hw
  rw [← Bool.not_eq_true, isUpper_iff_toNat] at hupper
  rw [← Bool.not_eq_true, isLower_iff_toNat] at hlower
  rw [← Char.toNat_inj, ← Char.toNat_inj, toNat_toUpper]
  split <;> omega

@[simp] theorem toUpper_toUpper (c : Char) : c.toUpper.toUpper = c.toUpper := by
  rw [← Char.toNat_inj, toNat_toUpper, toNat_toUpper]
  split_ifs <;> omega

@[simp] theorem toUpper_toLower (c : Char) : c.toLower.toUpper = c.toUpper := by
  rw [← Char.toNat_inj, toNat_toUpper, toNat_toUpper, toNat_toLower]
  split_ifs <;> omega

/-- No blank character is a letter. -/
@[simp] theorem isBlank_toUpper (c : Char) : isBlank c.toUpper = isBlank c := by
  by_cases h : 97 ≤ c.toNat ∧ c.toNat ≤ 122
  · unfold isBlank
    rw [toNat_toUpper, if_pos h, Bool.eq_iff_iff]
    simp only [Bool.or_eq_true, Bool.and_eq_true, decide_eq_true_eq, beq_iff_eq]
    omega
  · have hsame : c.toUpper = c := by rw [← Char.toNat_inj, toNat_toUpper, if_neg h]
    rw [hsame]

theorem toList_upper (s : String) : (upper s).toList = s.toList.map Char.toUpper :=
  String.toList_ofList

theorem upper_append (s t : String) : upper (s ++ t) = upper s ++ upper t := by
  rw [← String.toList_inj, toList_upper, String.toList_append, List.map_append,
    String.toList_append, toList_upper, toList_upper]

/-- A list is put in capitals item by item, and so is its separator. -/
theorem upper_intercalate (separator : String) (items : List String) :
    upper (separator.intercalate items) = (upper separator).intercalate (items.map upper) := by
  induction items with
  | nil => rfl
  | cons first rest ih =>
    by_cases hrest : rest = []
    · rw [hrest, List.map_singleton, String.intercalate_singleton, String.intercalate_singleton]
    · have hmap : rest.map upper ≠ [] := by simpa using hrest
      rw [String.intercalate_cons_of_ne_nil hrest, List.map_cons,
        String.intercalate_cons_of_ne_nil hmap, upper_append, upper_append, ih]

/-- Characters that are no letters are the capitals of themselves only. -/
theorem map_toUpper_eq_iff_of_not_isAlpha {ws : List Char} (hws : ∀ w ∈ ws, w.isAlpha = false)
    (cs : List Char) : cs.map Char.toUpper = ws ↔ cs = ws := by
  induction cs generalizing ws with
  | nil => rfl
  | cons c cs ih =>
    cases ws with
    | nil => simp
    | cons w ws =>
      obtain ⟨hw, hrest⟩ := List.forall_mem_cons.mp hws
      rw [List.map_cons, List.cons.injEq, List.cons.injEq, toUpper_eq_iff_of_not_isAlpha hw,
        ih hrest]

/-- A text without letters is made from itself only. -/
theorem upper_eq_iff_of_not_isAlpha {w : String} (hw : ∀ c ∈ w.toList, c.isAlpha = false)
    (s : String) : upper s = w ↔ s = w := by
  rw [← String.toList_inj, ← String.toList_inj, toList_upper,
    map_toUpper_eq_iff_of_not_isAlpha hw]

/-- Trimming keeps the case. -/
theorem trim_upper (s : String) : trim (upper s) = upper (trim s) := by
  have hblank : isBlank ∘ Char.toUpper = isBlank := funext isBlank_toUpper
  rw [← String.toList_inj, toList_trim, toList_upper, toList_upper, toList_trim, trimChars,
    trimChars, List.dropWhile_map, hblank, ← List.map_reverse, List.dropWhile_map, hblank,
    List.map_reverse]

/-! ## Words -/

section

variable {α β : Type} {p : α → Bool}

/-- Where a list is split does not change if its elements are replaced by others that split as they
do. -/
theorem splitOnP_map {q : β → Bool} {f : α → β} (hq : ∀ a, q (f a) = p a) (xs : List α) :
    (xs.map f).splitOnP q = (xs.splitOnP p).map (List.map f) := by
  induction xs with
  | nil => rfl
  | cons x xs ih =>
    rw [List.map_cons, List.splitOnP_cons_eq_if_modifyHead, List.splitOnP_cons_eq_if_modifyHead, hq,
      ih]
    split
    · rfl
    · cases xs.splitOnP p with
      | nil => rfl
      | cons piece pieces => rfl

/-- Separators in front add no piece that is not empty. -/
theorem filter_splitOnP_append {gap : List α} (hgap : ∀ a ∈ gap, p a = true) (ys : List α) :
    ((gap ++ ys).splitOnP p).filter (! ·.isEmpty) = (ys.splitOnP p).filter (! ·.isEmpty) := by
  induction gap with
  | nil => rfl
  | cons a gap ih =>
    obtain ⟨ha, hrest⟩ := List.forall_mem_cons.mp hgap
    rw [List.cons_append, List.splitOnP_cons_eq_if_modifyHead, if_pos ha, ← ih hrest]
    rfl

/-- Some separators between two lists are as good as one. -/
theorem filter_splitOnP_append_append {gap : List α} (hne : gap ≠ [])
    (hgap : ∀ a ∈ gap, p a = true) (xs ys : List α) :
    ((xs ++ (gap ++ ys)).splitOnP p).filter (! ·.isEmpty) =
      (xs.splitOnP p).filter (! ·.isEmpty) ++ (ys.splitOnP p).filter (! ·.isEmpty) := by
  obtain ⟨a, gap, rfl⟩ := List.exists_cons_of_ne_nil hne
  obtain ⟨ha, hrest⟩ := List.forall_mem_cons.mp hgap
  rw [List.cons_append, List.splitOnP_append_cons xs (gap ++ ys) ha, List.filter_append,
    filter_splitOnP_append hrest]

/-- A list without pieces that are not empty has separators only. -/
theorem forall_of_filter_splitOnP_eq_nil {xs : List α}
    (h : (xs.splitOnP p).filter (! ·.isEmpty) = []) : ∀ a ∈ xs, p a = true := by
  induction xs with
  | nil => exact fun a ha => absurd ha List.not_mem_nil
  | cons x xs ih =>
    rw [List.splitOnP_cons_eq_if_modifyHead] at h
    split at h
    · next hx => exact List.forall_mem_cons.mpr ⟨hx, ih h⟩
    · obtain ⟨piece, pieces, hsplit⟩ := List.exists_cons_of_ne_nil (List.splitOnP_ne_nil p xs)
      rw [hsplit] at h
      cases h

end

/-- The words of a text do not depend on its case. -/
theorem words_upper (s : String) : words (upper s) = (words s).map upper := by
  rw [words, words, toList_upper, splitOnP_map isBlank_toUpper, List.filter_map, List.map_map,
    List.map_map]
  have hempty : (fun cs : List Char => ! cs.isEmpty) ∘ List.map Char.toUpper =
      fun cs => ! cs.isEmpty := by
    funext cs
    cases cs <;> rfl
  have hword : String.ofList ∘ List.map Char.toUpper = upper ∘ String.ofList := by
    funext cs
    rw [Function.comp_apply, Function.comp_apply, upper, String.toList_ofList]
  rw [hempty, hword]

/-- Capitals can be taken before or after the blanks are put right. -/
theorem singleSpaced_upper (s : String) : singleSpaced (upper s) = upper (singleSpaced s) := by
  rw [singleSpaced, singleSpaced, words_upper, upper_intercalate]
  rfl

section

variable {l gap r : String}

theorem Blank.append (hl : Blank l) (hr : Blank r) : Blank (l ++ r) := by
  unfold Blank
  rw [String.toList_append]
  exact List.forall_mem_append.mpr ⟨hl, hr⟩

/-- A blank gap ends a word, and what is behind it starts with the next one. -/
theorem words_append_gap_append (hgap : Blank gap) (hne : gap ≠ "") (before behind : String) :
    words (before ++ gap ++ behind) = words before ++ words behind := by
  have hne' : gap.toList ≠ [] := by simpa using hne
  rw [words, String.toList_append, String.toList_append, List.append_assoc,
    filter_splitOnP_append_append hne' hgap, List.map_append]
  rfl

/-- Blanks in front of a text are in no word. -/
theorem words_blank_append (hl : Blank l) (s : String) : words (l ++ s) = words s := by
  rw [words, String.toList_append, filter_splitOnP_append hl]
  rfl

theorem words_append_blank (hr : Blank r) (s : String) : words (s ++ r) = words s := by
  by_cases hempty : r = ""
  · rw [hempty, String.append_empty]
  · have hgap := words_append_gap_append hr hempty s ""
    rwa [String.append_empty, show words "" = [] from rfl, List.append_nil] at hgap

theorem words_blank_append_append (hl : Blank l) (hr : Blank r) (s : String) :
    words (l ++ s ++ r) = words s := by
  rw [words_append_blank hr, words_blank_append hl]

theorem words_trim (s : String) : words (trim s) = words s := by
  obtain ⟨l, r, hl, hr, hs⟩ := exists_blanks_around s
  conv_rhs => rw [hs, words_blank_append_append hl hr]

theorem blank_of_words_eq_nil {s : String} (h : words s = []) : Blank s :=
  forall_of_filter_splitOnP_eq_nil (List.map_eq_nil_iff.mp h)

theorem words_of_not_blank {w : String} (hne : w ≠ "") (hw : ∀ c ∈ w.toList, isBlank c = false) :
    words w = [w] := by
  have hne' : w.toList.isEmpty = false := by simpa using hne
  rw [words, List.splitOnP_eq_singleton hw]
  simp [hne]

end

/-! ## One word -/

theorem length_trim_le (s : String) : (trim s).length ≤ s.length := by
  obtain ⟨l, r, -, -, hs⟩ := exists_blanks_around s
  have hlength := congrArg String.length hs
  rw [String.length_append, String.length_append] at hlength
  omega

/-- A trimmed text has no blanks at its ends. -/
theorem eq_empty_of_trim_eq {l s r : String} (hl : Blank l) (hr : Blank r)
    (h : trim (l ++ s ++ r) = l ++ s ++ r) : l = "" ∧ r = "" := by
  have hlength := congrArg String.length h
  rw [trim_blank_append_append hl hr, String.length_append, String.length_append] at hlength
  have hle := length_trim_le s
  have hl' : l.length = 0 := by omega
  have hr' : r.length = 0 := by omega
  simpa using And.intro hl' hr'

/-- A blank character inside a trimmed text has words on its two sides. -/
theorem words_ne_nil_of_trim_eq {before gap behind : String} (hgap : Blank gap) (hne : gap ≠ "")
    (h : trim (before ++ gap ++ behind) = before ++ gap ++ behind) :
    words before ≠ [] ∧ words behind ≠ [] := by
  constructor
  · intro hnil
    have hfront : Blank (before ++ gap) := (blank_of_words_eq_nil hnil).append hgap
    have h' : trim (before ++ gap ++ behind ++ "") = before ++ gap ++ behind ++ "" := by
      simpa using h
    have hempty := (eq_empty_of_trim_eq hfront (by decide) h').1
    exact hne (String.append_eq_empty_iff.mp hempty).2
  · intro hnil
    have hback : Blank (gap ++ behind) := hgap.append (blank_of_words_eq_nil hnil)
    have h' : trim ("" ++ before ++ (gap ++ behind)) = "" ++ before ++ (gap ++ behind) := by
      simpa [String.append_assoc] using h
    have hempty := (eq_empty_of_trim_eq (by decide) hback h').2
    exact hne (String.append_eq_empty_iff.mp hempty).1

/-- A text with a single word is that word with blanks around it. -/
theorem trim_of_words_eq_singleton {s w : String} (h : words s = [w]) : trim s = w := by
  rw [← words_trim] at h
  by_cases hblank : ∃ c ∈ (trim s).toList, isBlank c = true
  · obtain ⟨c, hc, hisBlank⟩ := hblank
    obtain ⟨before, behind, hsplit⟩ := List.append_of_mem hc
    have htext : trim s = String.ofList before ++ String.singleton c ++ String.ofList behind := by
      rw [← String.toList_inj, hsplit]
      simp
    have hgap : Blank (String.singleton c) := by simpa [Blank] using hisBlank
    have htrim := trim_trim s
    rw [htext] at htrim h
    have hsides := words_ne_nil_of_trim_eq hgap (by simp) htrim
    rw [words_append_gap_append hgap (by simp), List.append_eq_singleton_iff] at h
    rcases h with ⟨hnil, -⟩ | ⟨-, hnil⟩
    · exact absurd hnil hsides.1
    · exact absurd hnil hsides.2
  · have hnone : ∀ c ∈ (trim s).toList, isBlank c = false := by simpa using hblank
    have hne : trim s ≠ "" := by
      intro hempty
      rw [hempty] at h
      cases h
    rw [words_of_not_blank hne hnone] at h
    exact List.singleton_inj.mp h

/-- A word is the trimmed text exactly if it is all that is left when the words of the text are
written with single spaces. -/
theorem trim_eq_iff_singleSpaced_eq {w : String} (hne : w ≠ "")
    (hw : ∀ c ∈ w.toList, isBlank c = false) (s : String) : trim s = w ↔ singleSpaced s = w := by
  constructor
  · rintro rfl
    rw [singleSpaced, ← words_trim, words_of_not_blank hne hw, String.intercalate_singleton]
  · intro h
    apply trim_of_words_eq_singleton
    rw [singleSpaced] at h
    cases hwords : words s with
    | nil =>
      rw [hwords] at h
      exact absurd h.symm hne
    | cons first rest =>
      cases rest with
      | nil => rw [hwords, String.intercalate_singleton] at h; rw [h]
      | cons second rest =>
        rw [hwords, String.intercalate_cons_cons] at h
        have hspace : ' ' ∈ w.toList := by
          rw [← h]
          simp
        exact absurd (hw _ hspace) (by decide)

end DialectSql.Text
