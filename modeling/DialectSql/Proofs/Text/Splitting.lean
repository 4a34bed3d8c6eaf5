import DialectSql.Proofs.Text.Substitution
import Mathlib.Data.List.Forall2
import Mathlib.Data.List.TakeWhile

/-!
# The pieces of a text

`split` finds the occurrences of a marker while it reads a text from left to right. `SplitsInto`
says what the pieces are without a reader: a text without the marker is its only piece, and any
other text is cut at the first occurrence, behind which the same holds again. The two agree
(`split_eq_iff`).

Blanks at the ends of a text matter to no piece but for the blanks at its own ends
(`map_trim_split_trim`), if the marker has no blanks.
-/

set_option autoImplicit false

namespace DialectSql.Text

/-- The text is cut at the first occurrence of the marker. -/
structure CutAt (marker s before behind : String) : Prop where
  text : s = before ++ marker ++ behind
  first : ∀ b a, s = b ++ marker ++ a → before.length ≤ b.length

/-- The pieces of a text between the occurrences of a marker. -/
inductive SplitsInto (marker : String) : String → List String → Prop where
  | whole {s : String} (h : ¬ Occurs marker s) : SplitsInto marker s [s]
  | cut {s before behind : String} {rest : List String} (h : CutAt marker s before behind)
      (hrest : SplitsInto marker behind rest) : SplitsInto marker s (before :: rest)

/-! ## Reading up to the first occurrence -/

section Characters

variable {marker : List Char}

/-- A text without the marker is one piece. -/
theorem pieces_of_not_infix {cs : List Char} (h : ¬ marker <:+: cs) :
    pieces marker 0 cs = [cs] := by
  induction cs with
  | nil => rfl
  | cons c cs ih =>
    rw [List.infix_cons_iff, not_or] at h
    rw [pieces_cons h.1, ih h.2]
    rfl

/-- The first piece goes up to an occurrence before which none starts. -/
theorem pieces_append_marker (hm : marker ≠ []) {before behind : List Char}
    (hfirst : ∀ b a, before ++ (marker ++ behind) = b ++ (marker ++ a) → before.length ≤ b.length) :
    pieces marker 0 (before ++ (marker ++ behind)) = before :: pieces marker 0 behind := by
  induction before with
  | nil => exact pieces_marker_append hm behind
  | cons c before ih =>
    have hstart : ¬ marker <+: c :: (before ++ (marker ++ behind)) := by
      rintro ⟨a, ha⟩
      exact absurd (hfirst [] a ha.symm) (by simp)
    have hrest : ∀ b a, before ++ (marker ++ behind) = b ++ (marker ++ a) →
        before.length ≤ b.length := by
      intro b a h
      have := hfirst (c :: b) a (congrArg (c :: ·) h)
      simpa using this
    rw [List.cons_append, pieces_cons hstart, ih hrest]
    rfl

/-- A list in which the marker occurs has a first occurrence of it. -/
theorem exists_first_of_infix {cs : List Char} (h : marker <:+: cs) :
    ∃ before behind, cs = before ++ (marker ++ behind) ∧
      ∀ b a, cs = b ++ (marker ++ a) → before.length ≤ b.length := by
  induction cs with
  | nil =>
    obtain rfl := List.infix_nil.mp h
    exact ⟨[], [], rfl, fun _ _ _ => Nat.zero_le _⟩
  | cons c cs ih =>
    by_cases hstart : marker <+: c :: cs
    · obtain ⟨behind, hbehind⟩ := hstart
      exact ⟨[], behind, hbehind.symm, fun _ _ _ => Nat.zero_le _⟩
    · obtain ⟨before, behind, hcs, hfirst⟩ :=
        ih ((List.infix_cons_iff.mp h).resolve_left hstart)
      refine ⟨c :: before, behind, congrArg (c :: ·) hcs, ?_⟩
      intro b a hba
      cases b with
      | nil => exact absurd ⟨a, hba.symm⟩ hstart
      | cons x b => exact Nat.succ_le_succ (hfirst b a (List.cons.inj hba).2)

end Characters

/-! ## Pieces of a text -/

section

variable {marker : String}

theorem CutAt.toList {s before behind : String} (h : CutAt marker s before behind) :
    s.toList = before.toList ++ (marker.toList ++ behind.toList) := by
  rw [h.text, String.toList_append, String.toList_append, List.append_assoc]

/-- No occurrence starts in front of the cut. -/
theorem CutAt.first_toList {s before behind : String} (h : CutAt marker s before behind)
    {b a : List Char} (hs : s.toList = b ++ (marker.toList ++ a)) :
    before.toList.length ≤ b.length := by
  have := h.first (String.ofList b) (String.ofList a)
    (String.toList_injective (by simpa using hs))
  rwa [String.length_ofList, ← String.length_toList] at this

theorem exists_cutAt {s : String} (h : Occurs marker s) :
    ∃ before behind, CutAt marker s before behind := by
  obtain ⟨before, behind, hs, hfirst⟩ := exists_first_of_infix h
  refine ⟨String.ofList before, String.ofList behind,
    String.toList_injective (by simpa using hs), fun b a hba => ?_⟩
  have := hfirst b.toList a.toList (by rw [hba]; simp)
  rwa [String.length_toList, ← String.length_ofList] at this

/-- A text is cut where the marker stands if no occurrence ends in front of its last character. -/
theorem cutAt_of_not_occurs {before : String}
    (h : ¬ marker.toList <:+: before.toList ++ marker.toList.dropLast) (behind : String) :
    CutAt marker (before ++ marker ++ behind) before behind := by
  refine ⟨rfl, fun b a hba => ?_⟩
  by_contra hlt
  -- An earlier occurrence would lie in what stands in front of that last character.
  apply h
  have hchars : before.toList ++ (marker.toList ++ behind.toList) =
      b.toList ++ marker.toList ++ a.toList := by
    simpa [List.append_assoc] using congrArg String.toList hba
  have hearlier : b.toList ++ marker.toList <+:
      before.toList ++ (marker.toList ++ behind.toList) := hchars ▸ List.prefix_append _ _
  have hopen : before.toList ++ marker.toList.dropLast <+:
      before.toList ++ (marker.toList ++ behind.toList) := by
    rw [List.prefix_append_right_inj]
    exact (List.dropLast_prefix _).trans (List.prefix_append _ _)
  have hlength : (b.toList ++ marker.toList).length ≤
      (before.toList ++ marker.toList.dropLast).length := by
    rw [not_le, ← String.length_toList, ← String.length_toList] at hlt
    simp only [List.length_append, List.length_dropLast]
    omega
  have hprefix := List.prefix_of_prefix_length_le hearlier hopen hlength
  exact (List.suffix_append _ _).isInfix.trans hprefix.isInfix

theorem split_of_not_occurs {s : String} (h : ¬ Occurs marker s) : split marker s = [s] := by
  rw [split, pieces_of_not_infix h, List.map_singleton, String.ofList_toList]

section

variable (hm : marker ≠ "")
include hm

/-- At a cut the first piece ends, and what is behind it is split alike. -/
theorem split_of_cutAt {s before behind : String} (h : CutAt marker s before behind) :
    split marker s = before :: split marker behind := by
  have hm' : marker.toList ≠ [] := by simpa using hm
  have hpieces : pieces marker.toList 0 (before.toList ++ (marker.toList ++ behind.toList)) =
      before.toList :: pieces marker.toList 0 behind.toList :=
    pieces_append_marker hm' fun b a hba => h.first_toList (h.toList.trans hba)
  rw [split, h.toList, hpieces, List.map_cons, String.ofList_toList, split]

theorem length_lt_of_cutAt {s before behind : String} (h : CutAt marker s before behind) :
    behind.length < s.length := by
  have hpos : 0 < marker.length := Nat.pos_of_ne_zero (by simpa using hm)
  rw [h.text, String.length_append, String.length_append]
  omega

/-- The pieces of a text are those that its cuts make. -/
theorem splitsInto_split (s : String) : SplitsInto marker s (split marker s) := by
  induction hn : s.length using Nat.strongRecOn generalizing s with
  | ind n ih =>
    subst hn
    by_cases h : Occurs marker s
    · obtain ⟨before, behind, hcut⟩ := exists_cutAt h
      rw [split_of_cutAt hm hcut]
      exact .cut hcut (ih behind.length (length_lt_of_cutAt hm hcut) behind rfl)
    · rw [split_of_not_occurs h]
      exact .whole h

/-- Splitting a text gives its pieces and nothing else does. -/
theorem split_eq_iff {s : String} {parts : List String} :
    split marker s = parts ↔ SplitsInto marker s parts := by
  constructor
  · rintro rfl
    exact splitsInto_split hm s
  · intro h
    induction h with
    | whole h => exact split_of_not_occurs h
    | cut h _ ih => rw [split_of_cutAt hm h, ih]

/-- A text has several pieces exactly if it can be cut, and the first piece is the one before the
cut. -/
theorem split_eq_cons_cons_iff {s before next : String} {rest : List String} :
    split marker s = before :: next :: rest ↔
      ∃ behind, CutAt marker s before behind ∧ split marker behind = next :: rest := by
  constructor
  · intro h
    by_cases hoccurs : Occurs marker s
    · obtain ⟨before', behind, hcut⟩ := exists_cutAt hoccurs
      rw [split_of_cutAt hm hcut] at h
      obtain ⟨rfl, hrest⟩ := List.cons.inj h
      exact ⟨behind, hcut, hrest⟩
    · rw [split_of_not_occurs hoccurs] at h
      cases h
  · rintro ⟨behind, hcut, hrest⟩
    rw [split_of_cutAt hm hcut, hrest]

/-- No occurrence starts in a piece, so the pieces are found again where they have been joined. -/
theorem split_intercalate {parts : List String} (hne : parts ≠ [])
    (h : ∀ p ∈ parts, avoids marker p = true) :
    split marker (marker.intercalate parts) = parts := by
  have hm' : marker.toList ≠ [] := by simpa using hm
  induction parts with
  | nil => exact absurd rfl hne
  | cons p parts ih =>
    have hp := h p List.mem_cons_self
    by_cases hrest : parts = []
    · rw [hrest, String.intercalate_singleton, split_of_not_occurs (not_occurs_of_avoids hm hp)]
    · have hfree : ¬ marker.toList <:+: p.toList ++ marker.toList.dropLast := by
        rw [infix_append_of_head hm' (head?_ne_of_avoids hp)]
        intro hinfix
        have hlength := hinfix.length_le
        rw [List.length_dropLast] at hlength
        have := List.length_pos_iff.mpr hm'
        omega
      rw [String.intercalate_cons_of_ne_nil hrest, split_of_cutAt hm (cutAt_of_not_occurs hfree _),
        ih hrest fun q hq => h q (List.mem_cons_of_mem _ hq)]

end

end

example : split "::" "a:::b" = ["a", ":b"] := by decide

example : split "=>" "a==>b" = ["a=", "b"] := by decide

/-! ## Blanks at the ends -/

/-- All characters of the text are blank. -/
def Blank (s : String) : Prop := ∀ c ∈ s.toList, isBlank c = true

instance (s : String) : Decidable (Blank s) :=
  decidable_of_iff (s.toList.all isBlank = true) List.all_eq_true

theorem trimChars_blank_append {l : List Char} (hl : ∀ c ∈ l, isBlank c = true)
    (cs : List Char) : trimChars (l ++ cs) = trimChars cs := by
  rw [trimChars, List.dropWhile_append_of_pos hl, trimChars]

theorem trimChars_append_blank {r : List Char} (hr : ∀ c ∈ r, isBlank c = true)
    (cs : List Char) : trimChars (cs ++ r) = trimChars cs := by
  rw [trimChars, trimChars, List.dropWhile_append]
  split
  · next h => rw [List.isEmpty_iff.mp h, List.dropWhile_eq_nil_iff.mpr hr]
  · rw [List.reverse_append, List.dropWhile_append_of_pos (by simpa using hr)]

/-- A text is its trimmed text with blanks around it. -/
theorem exists_blanks_around (s : String) :
    ∃ l r, Blank l ∧ Blank r ∧ s = l ++ trim s ++ r := by
  let front := s.toList.dropWhile isBlank
  refine ⟨String.ofList (s.toList.takeWhile isBlank),
    String.ofList (front.reverse.takeWhile isBlank).reverse, ?_, ?_, ?_⟩
  · intro c hc
    exact List.mem_takeWhile_imp (by simpa using hc)
  · intro c hc
    exact List.mem_takeWhile_imp (by simpa using hc)
  · apply String.toList_injective
    have hback : trimChars s.toList ++ (front.reverse.takeWhile isBlank).reverse = front := by
      rw [trimChars, ← List.reverse_append, List.takeWhile_append_dropWhile, List.reverse_reverse]
    rw [String.toList_append, String.toList_append, toList_trim, String.toList_ofList,
      String.toList_ofList, List.append_assoc, hback, List.takeWhile_append_dropWhile]

/-- Blanks around a text do not count when it is trimmed. -/
theorem trim_blank_append_append {l r : String} (hl : Blank l) (hr : Blank r) (s : String) :
    trim (l ++ s ++ r) = trim s := by
  rw [trim, String.toList_append, String.toList_append, trimChars_append_blank hr,
    trimChars_blank_append hl]
  rfl

section

variable {marker : List Char}

/-- What no occurrence starts in stays in front of the first piece. -/
theorem pieces_append_of_head (hm : marker ≠ []) {l : List Char}
    (hl : ∀ c ∈ l, marker.head? ≠ some c) (cs : List Char) :
    pieces marker 0 (l ++ cs) = (pieces marker 0 cs).modifyHead (l ++ ·) := by
  induction l with
  | nil => exact (congrFun List.modifyHead_id (pieces marker 0 cs)).symm
  | cons c l ih =>
    have hstart := not_prefix_cons_of_head hm (hl c List.mem_cons_self) (l ++ cs)
    rw [List.cons_append, pieces_cons hstart, ih fun x hx => hl x (List.mem_cons_of_mem _ hx),
      List.modifyHead_modifyHead]
    rfl

/-- What has no character of the marker stays behind the last piece; every other piece is kept. -/
theorem forall₂_pieces_append (hm : marker ≠ []) {r : List Char} (hr : ∀ c ∈ r, c ∉ marker)
    (cs : List Char) :
    List.Forall₂ (fun p q => q = p ∨ q = p ++ r) (pieces marker 0 cs)
      (pieces marker 0 (cs ++ r)) := by
  induction cs using scan_induction hm with
  | nil =>
    have hfree : ¬ marker <:+: r := by
      intro h
      obtain ⟨c, hc⟩ := List.exists_mem_of_ne_nil marker hm
      exact hr c (h.subset hc) hc
    rw [List.nil_append, pieces_of_not_infix hfree]
    exact .cons (Or.inr rfl) .nil
  | occurrence cs ih =>
    rw [List.append_assoc, pieces_marker_append hm, pieces_marker_append hm]
    exact .cons (Or.inl rfl) ih
  | other c cs hc ih =>
    have hc' : ¬ marker <+: c :: (cs ++ r) := by
      cases r with
      | nil => simpa using hc
      | cons x r =>
        exact fun h => hc ((prefix_append_cons_iff (hr x List.mem_cons_self) (c :: cs) r).mp h)
    rw [List.cons_append, pieces_cons hc, pieces_cons hc']
    revert ih
    generalize pieces marker 0 cs = ps
    generalize pieces marker 0 (cs ++ r) = qs
    rintro (_ | ⟨hpq, hrest⟩)
    · exact .nil
    · refine .cons ?_ hrest
      rcases hpq with rfl | rfl
      · exact Or.inl rfl
      · exact Or.inr rfl

/-- Blanks in front of a text are blanks in front of its first piece. -/
theorem map_trimChars_pieces_blank_append (hm : marker ≠ []) {l : List Char}
    (hl : ∀ c ∈ l, isBlank c = true) (hmarker : ∀ c ∈ l, c ∉ marker) (cs : List Char) :
    (pieces marker 0 (l ++ cs)).map trimChars = (pieces marker 0 cs).map trimChars := by
  rw [pieces_append_of_head hm fun c hc h => hmarker c hc (List.mem_of_mem_head? h)]
  cases pieces marker 0 cs with
  | nil => rfl
  | cons p ps =>
    rw [List.modifyHead_cons, List.map_cons, List.map_cons, trimChars_blank_append hl]

/-- Blanks behind a text are blanks behind its last piece. -/
theorem map_trimChars_pieces_append_blank (hm : marker ≠ []) {r : List Char}
    (hr : ∀ c ∈ r, isBlank c = true) (hmarker : ∀ c ∈ r, c ∉ marker) (cs : List Char) :
    (pieces marker 0 (cs ++ r)).map trimChars = (pieces marker 0 cs).map trimChars := by
  symm
  rw [← List.forall₂_eq_eq_eq, List.forall₂_map_left_iff, List.forall₂_map_right_iff]
  refine (forall₂_pieces_append hm hmarker cs).imp fun p q hpq => ?_
  rcases hpq with rfl | rfl
  · rfl
  · exact (trimChars_append_blank hr p).symm

end

section

variable {marker : String} (hm : marker ≠ "")
  (hmarker : marker.toList.any isBlank = false)
include hmarker

theorem not_mem_of_blank {s : String} (hs : Blank s) : ∀ c ∈ s.toList, c ∉ marker.toList := by
  intro c hc hc'
  exact Bool.false_ne_true (hmarker.symm.trans (List.any_eq_true.mpr ⟨c, hc', hs c hc⟩))

include hm

/-- The pieces of a trimmed text are those of the text, but for the blanks at their ends. -/
theorem map_trim_split_trim (s : String) :
    (split marker (trim s)).map trim = (split marker s).map trim := by
  obtain ⟨l, r, hl, hr, hs⟩ := exists_blanks_around s
  have hm' : marker.toList ≠ [] := by simpa using hm
  have hchars (t : String) : (split marker t).map trim =
      ((pieces marker.toList 0 t.toList).map trimChars).map String.ofList := by
    simp [split, trim, Function.comp_def]
  have htext : s.toList = l.toList ++ ((trim s).toList ++ r.toList) := by
    conv_lhs => rw [hs]
    simp [List.append_assoc]
  rw [hchars, hchars, htext,
    map_trimChars_pieces_blank_append hm' hl (not_mem_of_blank hmarker hl),
    map_trimChars_pieces_append_blank hm' hr (not_mem_of_blank hmarker hr)]

/-- Blanks around a text have nothing of an occurrence. -/
theorem occurs_blank_append_append {l r : String} (hl : Blank l) (hr : Blank r) (s : String) :
    Occurs marker (l ++ s ++ r) ↔ Occurs marker s := by
  have hm' : marker.toList ≠ [] := by simpa using hm
  have hnone {t : String} (ht : Blank t) : ¬ Occurs marker t := by
    intro h
    obtain ⟨c, hc⟩ := List.exists_mem_of_ne_nil _ hm'
    exact not_mem_of_blank hmarker ht c (h.subset hc) hc
  have hends : endsApart marker l = true := by
    rw [endsApart, Option.all_eq_true]
    intro c hc
    simpa using not_mem_of_blank hmarker hl c (List.mem_of_getLast? hc)
  have hstarts : startsApart marker r = true := by
    rw [startsApart, Option.all_eq_true]
    intro c hc
    simpa using not_mem_of_blank hmarker hr c (List.mem_of_mem_head? hc)
  rw [occurs_append_of_apart hm (Or.inr hstarts), occurs_append_of_apart hm (Or.inl hends),
    or_iff_left (hnone hr), or_iff_right (hnone hl)]

end

end DialectSql.Text
