import DialectSql.Text.Blank
import DialectSql.Text.Marker
import Mathlib.Data.List.Infix

/-!
# Substitution for a marker

`replace` finds the occurrences of a marker from left to right and without overlap. This module
gives the equations by which a text is read from left to right (`replaced_marker_append`,
`replaced_cons`) with the induction that follows them (`scan_induction`), and from them how a
substitution goes through a text that is put together from parts: an occurrence of the marker cannot
reach over a character that the marker does not have (`replaced_append_cons`), and it cannot start
in a part without the first character of the marker (`replaced_append_of_head`).

A substitution changes a text exactly if the marker occurs in it and is not its own replacement
(`replace_eq_self_iff`).
-/

set_option autoImplicit false

namespace DialectSql.Text

/-- The characters with each occurrence of the marker replaced. -/
def replaced (marker new cs : List Char) : List Char := new.intercalate (pieces marker 0 cs)

/-- Substitution on strings is substitution on their characters. -/
theorem toList_replace (marker new s : String) :
    (replace marker new s).toList = replaced marker.toList new.toList s.toList := by
  simp [replace, split, replaced, String.toList_intercalate, List.map_map, Function.comp_def]

/-! ## Reading from left to right -/

variable {marker new : List Char}

/-- Characters that are skipped belong to no piece. -/
theorem pieces_eq_pieces_drop (marker : List Char) (skip : Nat) (cs : List Char) :
    pieces marker skip cs = pieces marker 0 (cs.drop skip) := by
  induction skip generalizing cs with
  | zero => rfl
  | succ skip ih =>
    cases cs with
    | nil => simp [pieces]
    | cons c cs => rw [pieces, ih, List.drop_succ_cons]

/-- An occurrence at the front ends a piece that is empty. -/
theorem pieces_marker_append (hm : marker ≠ []) (cs : List Char) :
    pieces marker 0 (marker ++ cs) = [] :: pieces marker 0 cs := by
  obtain ⟨m, ms, rfl⟩ := List.exists_cons_of_ne_nil hm
  have hprefix : (m :: ms).isPrefixOf (m :: (ms ++ cs)) = true :=
    List.isPrefixOf_iff_prefix.mpr ⟨cs, rfl⟩
  rw [List.cons_append, pieces, if_pos hprefix, pieces_eq_pieces_drop]
  simp

/-- A character that starts no occurrence belongs to the first piece. -/
theorem pieces_cons {c : Char} {cs : List Char} (h : ¬ marker <+: c :: cs) :
    pieces marker 0 (c :: cs) = (pieces marker 0 cs).modifyHead (c :: ·) := by
  rw [pieces, if_neg (by simpa [List.isPrefixOf_iff_prefix] using h)]

/-- An occurrence of the marker is replaced, and reading goes on behind it. -/
theorem replaced_marker_append (hm : marker ≠ []) (cs : List Char) :
    replaced marker new (marker ++ cs) = new ++ replaced marker new cs := by
  rw [replaced, pieces_marker_append hm,
    List.intercalate_cons_of_ne_nil (pieces_ne_nil marker 0 cs), List.nil_append]
  rfl

/-- A character with which no occurrence starts is kept. -/
theorem replaced_cons {c : Char} {cs : List Char} (h : ¬ marker <+: c :: cs) :
    replaced marker new (c :: cs) = c :: replaced marker new cs := by
  rw [replaced, pieces_cons h, intercalate_modifyHead_cons _ _ (pieces_ne_nil marker 0 cs)]
  rfl

/-- The induction over a text as it is read: the end, an occurrence of the marker, or a character
with which no occurrence starts. -/
theorem scan_induction {P : List Char → Prop} (hm : marker ≠ []) (nil : P [])
    (occurrence : ∀ cs, P cs → P (marker ++ cs))
    (other : ∀ c cs, ¬ marker <+: c :: cs → P cs → P (c :: cs)) (cs : List Char) : P cs := by
  -- What follows an occurrence is shorter by the marker, which is not empty.
  induction hn : cs.length using Nat.strongRecOn generalizing cs with
  | ind n ih =>
    subst hn
    cases cs with
    | nil => exact nil
    | cons c cs =>
      by_cases h : marker <+: c :: cs
      · obtain ⟨rest, hrest⟩ := h
        have hlength : marker.length + rest.length = (c :: cs).length := by
          rw [← List.length_append, hrest]
        have hpos := List.length_pos_iff.mpr hm
        rw [← hrest]
        exact occurrence rest (ih rest.length (by omega) rest rfl)
      · exact other c cs h (ih cs.length (by simp) cs rfl)

/-! ## Texts put together from parts -/

/-- No occurrence starts with a character that the marker does not start with. -/
theorem not_prefix_cons_of_head (hm : marker ≠ []) {c : Char} (hc : marker.head? ≠ some c)
    (cs : List Char) : ¬ marker <+: c :: cs := by
  intro h
  rcases List.prefix_cons_iff.mp h with hnil | ⟨t, ht, -⟩
  · exact hm hnil
  · exact hc (by rw [ht]; rfl)

theorem not_prefix_cons_of_not_mem (hm : marker ≠ []) {c : Char} (hc : c ∉ marker)
    (cs : List Char) : ¬ marker <+: c :: cs :=
  not_prefix_cons_of_head hm (fun h => hc (List.mem_of_mem_head? h)) cs

/-- No occurrence starts in a part that does not have the first character of the marker. -/
theorem replaced_append_of_head (hm : marker ≠ []) {a : List Char}
    (ha : ∀ c ∈ a, marker.head? ≠ some c) (cs : List Char) :
    replaced marker new (a ++ cs) = a ++ replaced marker new cs := by
  induction a with
  | nil => rfl
  | cons c a ih =>
    have hstart := not_prefix_cons_of_head hm (ha c List.mem_cons_self) (a ++ cs)
    rw [List.cons_append, replaced_cons hstart, ih fun x hx => ha x (List.mem_cons_of_mem _ hx)]
    rfl

/-- An occurrence at the front does not reach a character that the marker does not have. -/
theorem prefix_append_cons_iff {c : Char} (hc : c ∉ marker) (a b : List Char) :
    marker <+: a ++ c :: b ↔ marker <+: a := by
  constructor
  · intro h
    rcases List.prefix_or_prefix_of_prefix h (List.prefix_append a (c :: b)) with ha | ha
    · exact ha
    · obtain ⟨t, rfl⟩ := ha
      rw [List.prefix_append_right_inj] at h
      cases t with
      | nil => simp
      | cons x t =>
        obtain ⟨rfl, -⟩ := List.cons_prefix_cons.mp h
        simp at hc
  · intro h
    exact List.prefix_append_of_prefix h

/-- No occurrence reaches over a character that the marker does not have. -/
theorem replaced_append_cons (hm : marker ≠ []) {c : Char} (hc : c ∉ marker) (a b : List Char) :
    replaced marker new (a ++ c :: b) = replaced marker new a ++ c :: replaced marker new b := by
  have hstart : ∀ x, ¬ marker <+: x → ¬ marker <+: x ++ c :: b := by
    intro x hx h
    exact hx ((prefix_append_cons_iff hc x b).mp h)
  -- Reading `a` takes the same steps whether or not `c` follows, so this is the induction to use
  -- and not one over the single characters of `a`.
  induction a using scan_induction hm with
  | nil => exact replaced_cons (hstart [] (by simpa using hm))
  | occurrence cs ih =>
    rw [List.append_assoc, replaced_marker_append hm, ih, replaced_marker_append hm,
      List.append_assoc]
  | other x cs hx ih =>
    have hx' : ¬ marker <+: x :: (cs ++ c :: b) := hstart (x :: cs) hx
    rw [List.cons_append, replaced_cons hx', ih, replaced_cons hx]
    rfl

/-- An occurrence stands on one side of a character that the marker does not have. -/
theorem infix_append_cons_iff {c : Char} (hc : c ∉ marker) (a b : List Char) :
    marker <:+: a ++ c :: b ↔ marker <:+: a ∨ marker <:+: b := by
  induction a with
  | nil =>
    rw [List.nil_append, List.infix_cons_iff]
    have := prefix_append_cons_iff hc [] b
    rw [List.nil_append, List.prefix_nil] at this
    rw [this, List.infix_nil]
  | cons x a ih =>
    rw [List.cons_append, List.infix_cons_iff, ih, List.infix_cons_iff, ← List.cons_append,
      prefix_append_cons_iff hc, or_assoc]

/-- No occurrence starts in a text without the first character of the marker. -/
theorem infix_append_of_head (hm : marker ≠ []) {a : List Char}
    (ha : ∀ c ∈ a, marker.head? ≠ some c) (b : List Char) :
    marker <:+: a ++ b ↔ marker <:+: b := by
  induction a with
  | nil => rfl
  | cons c a ih =>
    have hstart := not_prefix_cons_of_head hm (ha c List.mem_cons_self) (a ++ b)
    rw [List.cons_append, List.infix_cons_iff, or_iff_right hstart,
      ih fun x hx => ha x (List.mem_cons_of_mem _ hx)]

/-- Characters that are kept or become several others, which the part does not have, neither make
nor break an occurrence at the front. -/
theorem prefix_flatMap_iff {f : Char → List Char} {part : List Char}
    (hf : ∀ c, f c = [c] ∨ c ∉ part ∧ f c ≠ [] ∧ ∀ x ∈ f c, x ∉ part) (cs : List Char) :
    part <+: cs.flatMap f ↔ part <+: cs := by
  -- The part is generalised, since each kept character takes one off it.
  induction cs generalizing part with
  | nil => rfl
  | cons c cs ih =>
    cases part with
    | nil => simp
    | cons y part =>
      have htail : ∀ x, f x = [x] ∨ x ∉ part ∧ f x ≠ [] ∧ ∀ z ∈ f x, z ∉ part := by
        intro x
        rcases hf x with hx | ⟨hx, hne, hchars⟩
        · exact Or.inl hx
        · exact Or.inr ⟨List.not_mem_of_not_mem_cons hx, hne,
            fun z hz => List.not_mem_of_not_mem_cons (hchars z hz)⟩
      rw [List.flatMap_cons]
      rcases hf c with hc | ⟨hc, hne, hchars⟩
      · rw [hc, List.singleton_append, List.cons_prefix_cons, List.cons_prefix_cons, ih htail]
      · obtain ⟨x, xs, hx⟩ := List.exists_cons_of_ne_nil hne
        have hyx : y ≠ x := by
          rintro rfl
          exact hchars y (by simp [hx]) List.mem_cons_self
        have hyc : y ≠ c := by
          rintro rfl
          exact hc List.mem_cons_self
        simp [hx, List.cons_prefix_cons, hyx, hyc]

/-- Rewriting every character keeps the occurrences of a marker that has neither a character that
is rewritten nor one that stands for it. -/
theorem infix_flatMap_iff (hm : marker ≠ []) {f : Char → List Char}
    (hf : ∀ c, f c = [c] ∨ c ∉ marker ∧ f c ≠ [] ∧ ∀ x ∈ f c, x ∉ marker) (cs : List Char) :
    marker <:+: cs.flatMap f ↔ marker <:+: cs := by
  induction cs with
  | nil => rfl
  | cons c cs ih =>
    have hhead : ∀ x, x ∉ marker → marker.head? ≠ some x := by
      intro x hx h
      exact hx (List.mem_of_mem_head? h)
    rcases hf c with hc | ⟨hc, -, hchars⟩
    · have hprefix := prefix_flatMap_iff hf (c :: cs)
      rw [List.flatMap_cons, hc, List.singleton_append] at hprefix ⊢
      rw [List.infix_cons_iff, List.infix_cons_iff, hprefix, ih]
    · have hstart := not_prefix_cons_of_head hm (hhead c hc) cs
      rw [List.flatMap_cons, infix_append_of_head hm fun x hx => hhead x (hchars x hx), ih,
        List.infix_cons_iff, or_iff_right hstart]

/-! ## When a substitution changes nothing -/

theorem replaced_of_not_infix {cs : List Char} (h : ¬ marker <:+: cs) :
    replaced marker new cs = cs := by
  induction cs with
  | nil => rfl
  | cons c cs ih =>
    rw [List.infix_cons_iff, not_or] at h
    rw [replaced_cons h.1, ih h.2]

theorem replaced_self (hm : marker ≠ []) (cs : List Char) : replaced marker marker cs = cs := by
  simpa [replaced] using intercalate_pieces marker hm 0 cs

/-- The same pieces with two texts between them: each gap is longer by the difference. -/
theorem length_intercalate_add (a b p : List Char) (ps : List (List Char)) :
    (a.intercalate (p :: ps)).length + ps.length * b.length =
      (b.intercalate (p :: ps)).length + ps.length * a.length := by
  induction ps generalizing p with
  | nil => simp
  | cons q ps ih =>
    have hrest := ih q
    rw [List.intercalate_cons_of_ne_nil (List.cons_ne_nil q ps),
      List.intercalate_cons_of_ne_nil (List.cons_ne_nil q ps), List.length_cons,
      Nat.add_one_mul, Nat.add_one_mul]
    simp only [List.length_append]
    omega

/-- An occurrence of the marker cuts the text into more than one piece. -/
theorem one_lt_length_pieces (hm : marker ≠ []) {cs : List Char} (h : marker <:+: cs) :
    1 < (pieces marker 0 cs).length := by
  induction cs using scan_induction hm with
  | nil => exact absurd (List.infix_nil.mp h) hm
  | occurrence cs _ =>
    rw [pieces_marker_append hm, List.length_cons]
    have := List.length_pos_iff.mpr (pieces_ne_nil marker 0 cs)
    omega
  | other c cs hc ih =>
    rw [pieces_cons hc, List.length_modifyHead]
    exact ih ((List.infix_cons_iff.mp h).resolve_left hc)

/-- Where the marker occurs, only a replacement as long as the marker keeps the length. -/
theorem length_eq_of_replaced_eq_self (hm : marker ≠ []) {cs : List Char} (h : marker <:+: cs)
    (heq : replaced marker new cs = cs) : new.length = marker.length := by
  have hcount := one_lt_length_pieces hm h
  have hnew : new.intercalate (pieces marker 0 cs) = cs := heq
  have hmarker : marker.intercalate (pieces marker 0 cs) = cs := replaced_self hm cs
  cases hpieces : pieces marker 0 cs with
  | nil => exact absurd hpieces (pieces_ne_nil marker 0 cs)
  | cons p ps =>
    rw [hpieces] at hcount hnew hmarker
    have hgaps := length_intercalate_add new marker p ps
    rw [hnew, hmarker] at hgaps
    rw [List.length_cons] at hcount
    exact Nat.eq_of_mul_eq_mul_left (by omega) (by omega : ps.length * new.length = _)

/-- A substitution changes a text unless the marker does not occur in it or is put in for itself. -/
theorem replaced_eq_self_iff (hm : marker ≠ []) (cs : List Char) :
    replaced marker new cs = cs ↔ ¬ marker <:+: cs ∨ new = marker := by
  constructor
  · intro heq
    by_cases h : marker <:+: cs
    · right
      have hlength := length_eq_of_replaced_eq_self hm h heq
      induction cs using scan_induction hm with
      | nil => exact absurd (List.infix_nil.mp h) hm
      | occurrence cs _ =>
        rw [replaced_marker_append hm] at heq
        exact (List.append_inj heq hlength).1
      | other c cs hc ih =>
        rw [replaced_cons hc, List.cons.injEq] at heq
        exact ih heq.2 ((List.infix_cons_iff.mp h).resolve_left hc)
    · exact Or.inl h
  · rintro (h | rfl)
    · exact replaced_of_not_infix h
    · exact replaced_self hm cs

/-! ## Strings -/

/-- The marker stands somewhere in the text. -/
def Occurs (marker s : String) : Prop := marker.toList <:+: s.toList

instance (marker s : String) : Decidable (Occurs marker s) :=
  inferInstanceAs (Decidable (marker.toList <:+: s.toList))

/-- No occurrence of the marker starts in the text: none of its characters is the first one of the
marker. -/
def avoids (marker s : String) : Bool := s.toList.all fun x => marker.toList.head? != some x

/-- No occurrence of the marker starts in the text or reaches over it: its first character is none
of the marker. -/
def separates (marker sep : String) : Bool :=
  sep.toList.head?.any (!marker.toList.contains ·) && avoids marker sep

section Strings

variable {marker : String} (hm : marker ≠ "") (new : String)

theorem head?_ne_of_avoids {marker s : String} (h : avoids marker s = true) :
    ∀ x ∈ s.toList, marker.toList.head? ≠ some x := by
  intro x hx
  exact bne_iff_ne.mp (List.all_eq_true.mp h x hx)

/-- A separator starts with a character that the marker does not have, and no occurrence starts in
the rest of it. -/
theorem separates_cases {marker sep : String} (h : separates marker sep = true) :
    ∃ c cs, sep.toList = c :: cs ∧ c ∉ marker.toList ∧
      ∀ x ∈ cs, marker.toList.head? ≠ some x := by
  obtain ⟨hhead, havoids⟩ := Bool.and_eq_true_iff.mp h
  have hne := head?_ne_of_avoids havoids
  cases hsep : sep.toList with
  | nil =>
    rw [hsep] at hhead
    cases hhead
  | cons c cs =>
    rw [hsep] at hhead hne
    refine ⟨c, cs, rfl, ?_, ?_⟩
    · simpa using hhead
    · intro x hx
      exact hne x (List.mem_cons_of_mem _ hx)

include hm in
/-- What stands on the two sides of a separator is substituted apart. -/
theorem replace_append_separator {sep : String} (hsep : separates marker sep = true)
    (a b : String) :
    replace marker new (a ++ sep ++ b) = replace marker new a ++ sep ++ replace marker new b := by
  obtain ⟨c, cs, hchars, hc, hcs⟩ := separates_cases hsep
  have hm' : marker.toList ≠ [] := by simpa using hm
  apply String.toList_injective
  simp only [toList_replace, String.toList_append, hchars, List.append_assoc, List.cons_append]
  rw [replaced_append_cons hm' hc, replaced_append_of_head hm' hcs]

theorem replace_empty : replace marker new "" = "" := by
  simp [replace, split, pieces]

include hm in
/-- A separator at the front is kept. -/
theorem replace_separator_append {sep : String} (hsep : separates marker sep = true)
    (b : String) : replace marker new (sep ++ b) = sep ++ replace marker new b := by
  have h := replace_append_separator hm new hsep "" b
  rwa [replace_empty, String.empty_append] at h

include hm in
theorem replace_append_last {sep : String} (hsep : separates marker sep = true) (a : String) :
    replace marker new (a ++ sep) = replace marker new a ++ sep := by
  have h := replace_append_separator hm new hsep a ""
  rwa [replace_empty, String.append_empty, String.append_empty] at h

include hm in
/-- A text without the first character of the marker is kept, whatever follows. -/
theorem replace_append_of_avoids {a : String} (ha : avoids marker a = true) (b : String) :
    replace marker new (a ++ b) = a ++ replace marker new b := by
  apply String.toList_injective
  simp only [toList_replace, String.toList_append]
  exact replaced_append_of_head (by simpa using hm) (head?_ne_of_avoids ha) _

include hm in
/-- A marker at the front becomes the new text. -/
theorem replace_marker_append (s : String) :
    replace marker new (marker ++ s) = new ++ replace marker new s := by
  apply String.toList_injective
  simp only [toList_replace, String.toList_append]
  exact replaced_marker_append (by simpa using hm) _

include hm in
/-- A list with separators is substituted item by item. -/
theorem replace_intercalate {sep : String} (hsep : separates marker sep = true)
    (items : List String) :
    replace marker new (sep.intercalate items) =
      sep.intercalate (items.map (replace marker new)) := by
  induction items with
  | nil => simpa using replace_empty new
  | cons s items ih =>
    by_cases hne : items = []
    · subst hne
      simp
    · rw [String.intercalate_cons_of_ne_nil hne, replace_append_separator hm new hsep, ih,
        List.map_cons, String.intercalate_cons_of_ne_nil (by simpa using hne)]

/-- A text without the marker is not changed. -/
theorem replace_of_not_occurs {s : String} (h : ¬ Occurs marker s) : replace marker new s = s := by
  apply String.toList_injective
  rw [toList_replace]
  exact replaced_of_not_infix h

include hm in
/-- A substitution changes a text exactly if the marker occurs in it and is not its own
replacement. -/
theorem replace_eq_self_iff (s : String) :
    replace marker new s = s ↔ ¬ Occurs marker s ∨ new = marker := by
  rw [← String.toList_inj, toList_replace, replaced_eq_self_iff (by simpa using hm),
    String.toList_inj]
  rfl

include hm in
theorem not_occurs_empty : ¬ Occurs marker "" := by
  intro h
  exact hm (by simpa [Occurs] using h)

theorem avoids_append (marker a b : String) :
    avoids marker (a ++ b) = (avoids marker a && avoids marker b) := by
  simp [avoids]

include hm in
theorem not_occurs_of_avoids {s : String} (h : avoids marker s = true) : ¬ Occurs marker s := by
  have hm' : marker.toList ≠ [] := by simpa using hm
  rw [Occurs, ← List.append_nil s.toList,
    infix_append_of_head hm' (head?_ne_of_avoids h), List.infix_nil]
  exact hm'

include hm in
/-- An occurrence stands on one side of a separator. -/
theorem occurs_append_separator {sep : String} (hsep : separates marker sep = true)
    (a b : String) :
    Occurs marker (a ++ sep ++ b) ↔ Occurs marker a ∨ Occurs marker b := by
  obtain ⟨c, cs, hchars, hc, hcs⟩ := separates_cases hsep
  rw [Occurs, Occurs, Occurs, String.toList_append, String.toList_append, hchars,
    List.append_assoc, List.cons_append, infix_append_cons_iff hc,
    infix_append_of_head (by simpa using hm) hcs]

include hm in
/-- A separator on both sides of a text has nothing of an occurrence. -/
theorem occurs_delimited {sep : String} (hsep : separates marker sep = true) (s : String) :
    Occurs marker (sep ++ s ++ sep) ↔ Occurs marker s := by
  have hclose := occurs_append_separator hm hsep (sep ++ s) ""
  have hopen := occurs_append_separator hm hsep "" s
  rw [String.append_empty, or_iff_left (not_occurs_empty hm)] at hclose
  rw [String.empty_append, or_iff_right (not_occurs_empty hm)] at hopen
  exact hclose.trans hopen

include hm in
/-- An occurrence in a list with separators stands in one of the items. -/
theorem occurs_intercalate {sep : String} (hsep : separates marker sep = true)
    (items : List String) :
    Occurs marker (sep.intercalate items) ↔ ∃ s ∈ items, Occurs marker s := by
  induction items with
  | nil => simpa using not_occurs_empty hm
  | cons s items ih =>
    by_cases hne : items = []
    · subst hne
      simp
    · rw [String.intercalate_cons_of_ne_nil hne, occurs_append_separator hm hsep, ih,
        List.exists_mem_cons_iff]

end Strings

/-! ## Borders that no occurrence crosses -/

/-- No occurrence reaches into the text from the front: the first character, if there is one, is
none of the marker. -/
def startsApart (marker s : String) : Bool := s.toList.head?.all (!marker.toList.contains ·)

/-- No occurrence reaches out of the text at the end: the last character, if there is one, is none
of the marker. -/
def endsApart (marker s : String) : Bool := s.toList.getLast?.all (!marker.toList.contains ·)

section Borders

variable {marker : String}

theorem startsApart_cases {s : String} (h : startsApart marker s = true) :
    s.toList = [] ∨ ∃ c cs, s.toList = c :: cs ∧ c ∉ marker.toList := by
  cases hs : s.toList with
  | nil => exact Or.inl rfl
  | cons c cs => exact Or.inr ⟨c, cs, rfl, by simpa [startsApart, hs] using h⟩

theorem endsApart_cases {s : String} (h : endsApart marker s = true) :
    s.toList = [] ∨ ∃ cs c, s.toList = cs ++ [c] ∧ c ∉ marker.toList := by
  rcases List.eq_nil_or_concat s.toList with hs | ⟨cs, c, hs⟩
  · exact Or.inl hs
  · rw [List.concat_eq_append] at hs
    exact Or.inr ⟨cs, c, hs, by simpa [endsApart, hs] using h⟩

/-- The border of two texts that no occurrence crosses is one to the left of which the last
character, or to the right of which the first one, is none of the marker. -/
def Apart (marker a b : String) : Prop :=
  endsApart marker a = true ∨ startsApart marker b = true

instance (marker a b : String) : Decidable (Apart marker a b) :=
  inferInstanceAs (Decidable (_ ∨ _))

theorem startsApart_append {a b : String} (ha : startsApart marker a = true)
    (hb : startsApart marker b = true) : startsApart marker (a ++ b) = true := by
  rcases startsApart_cases ha with hs | ⟨c, cs, hs, -⟩
  · simpa [startsApart, hs] using hb
  · simpa [startsApart, hs] using ha

/-- How a text starts is seen at its first part, if that is not empty. -/
theorem startsApart_append_of_ne_empty {a : String} (hne : a ≠ "")
    (ha : startsApart marker a = true) (b : String) : startsApart marker (a ++ b) = true := by
  rcases startsApart_cases ha with hs | ⟨c, cs, hs, -⟩
  · exact absurd (by simpa using hs) hne
  · simpa [startsApart, hs] using ha

theorem endsApart_append_of_ne_empty {b : String} (hne : b ≠ "")
    (hb : endsApart marker b = true) (a : String) : endsApart marker (a ++ b) = true := by
  rcases endsApart_cases hb with hs | ⟨cs, c, hs, -⟩
  · exact absurd (by simpa using hs) hne
  · simpa [endsApart, hs, ← List.append_assoc] using hb

variable (hm : marker ≠ "")
include hm

/-- Texts that are apart are substituted apart. -/
theorem replace_append_of_apart (new : String) {a b : String} (h : Apart marker a b) :
    replace marker new (a ++ b) = replace marker new a ++ replace marker new b := by
  have hm' : marker.toList ≠ [] := by simpa using hm
  -- A character that the marker does not have is read as itself, whatever stands behind it.
  have hcons (c : Char) (cs : List Char) (hc : c ∉ marker.toList) :
      replaced marker.toList new.toList (c :: cs) =
        c :: replaced marker.toList new.toList cs := by
    exact replaced_cons (not_prefix_cons_of_not_mem hm' hc cs)
  apply String.toList_injective
  simp only [toList_replace, String.toList_append]
  rcases h with h | h
  · rcases endsApart_cases h with hs | ⟨cs, c, hs, hc⟩
    · simp [hs, replaced, pieces]
    · rw [hs, List.append_assoc, List.singleton_append, replaced_append_cons hm' hc,
        replaced_append_cons hm' hc]
      simp [replaced, pieces]
  · rcases startsApart_cases h with hs | ⟨c, cs, hs, hc⟩
    · simp [hs, replaced, pieces]
    · rw [hs, replaced_append_cons hm' hc, hcons c cs hc]

/-- An occurrence in two texts that are apart stands in one of them. -/
theorem occurs_append_of_apart {a b : String} (h : Apart marker a b) :
    Occurs marker (a ++ b) ↔ Occurs marker a ∨ Occurs marker b := by
  have hm' : ¬ Occurs marker "" := not_occurs_empty hm
  rw [Occurs, String.toList_empty] at hm'
  rw [Occurs, Occurs, Occurs, String.toList_append]
  rcases h with h | h
  · rcases endsApart_cases h with hs | ⟨cs, c, hs, hc⟩
    · rw [hs, List.nil_append, or_iff_right hm']
    · rw [hs, List.append_assoc, List.singleton_append, infix_append_cons_iff hc,
        infix_append_cons_iff hc, or_iff_left hm']
  · rcases startsApart_cases h with hs | ⟨c, cs, hs, hc⟩
    · rw [hs, List.append_nil, or_iff_left hm']
    · have hstart := infix_append_cons_iff hc [] cs
      rw [List.nil_append, or_iff_right hm'] at hstart
      rw [hs, infix_append_cons_iff hc, hstart]

theorem not_occurs_append {a b : String} (h : Apart marker a b) (ha : ¬ Occurs marker a)
    (hb : ¬ Occurs marker b) : ¬ Occurs marker (a ++ b) := by
  rw [occurs_append_of_apart hm h]
  exact not_or.mpr ⟨ha, hb⟩

end Borders

theorem isInfix_trimChars (cs : List Char) : trimChars cs <:+: cs := by
  have hleft : cs.dropWhile isBlank <:+ cs := List.dropWhile_suffix isBlank
  have hright : trimChars cs <+: cs.dropWhile isBlank := by
    rw [trimChars, ← List.reverse_suffix, List.reverse_reverse]
    exact List.dropWhile_suffix isBlank
  exact hright.isInfix.trans hleft.isInfix

theorem not_occurs_trim {marker s : String} (h : ¬ Occurs marker s) : ¬ Occurs marker (trim s) := by
  intro htrim
  rw [Occurs, toList_trim] at htrim
  exact h (htrim.trans (isInfix_trimChars s.toList))

end DialectSql.Text
