/-!
# Cutting a text at a marker

`split marker s` lists the pieces of `s` between the occurrences of a non-empty marker, found from
left to right and without overlap. Joined by the marker the pieces give `s` back
(`intercalate_split`); joined by another text they give `s` with every occurrence of the marker
replaced by it (`replace`).
-/

set_option autoImplicit false

namespace DialectSql.Text

/-- The pieces of the characters after the first `skip` ones, which belong to an occurrence that
has been found already. -/
def pieces (marker : List Char) : Nat → List Char → List (List Char)
  | _, [] => [[]]
  | skip + 1, _ :: cs => pieces marker skip cs
  | 0, c :: cs =>
      if marker.isPrefixOf (c :: cs) then [] :: pieces marker (marker.length - 1) cs
      else (pieces marker 0 cs).modifyHead (c :: ·)

/-- The pieces of `s` between the occurrences of the marker, found from left to right and without
overlap; there is always at least one piece. -/
def split (marker s : String) : List String :=
  (pieces marker.toList 0 s.toList).map String.ofList

/-- The text with each occurrence of the marker replaced. -/
def replace (marker new s : String) : String := new.intercalate (split marker s)

/-- Every text has at least one piece. -/
theorem pieces_ne_nil (marker : List Char) (skip : Nat) (cs : List Char) :
    pieces marker skip cs ≠ [] := by
  fun_induction pieces marker skip cs with
  | case1 => simp
  | case2 _ _ _ ih => exact ih
  | case3 => simp
  | case4 _ _ _ ih =>
    intro h
    exact ih (by simpa using h)

theorem intercalate_modifyHead_cons (sep : List Char) (c : Char) {ps : List (List Char)}
    (h : ps ≠ []) :
    sep.intercalate (ps.modifyHead (c :: ·)) = c :: sep.intercalate ps := by
  cases ps with
  | nil => exact absurd rfl h
  | cons p ps => cases ps <;> simp [List.intercalate]

/-- The marker put between the pieces gives back what was cut, from the end of the skipped
characters on. -/
theorem intercalate_pieces (marker : List Char) (hm : marker ≠ []) (skip : Nat)
    (cs : List Char) : marker.intercalate (pieces marker skip cs) = cs.drop skip := by
  fun_induction pieces marker skip cs with
  | case1 => simp [List.intercalate]
  | case2 skip c cs ih => simpa using ih
  | case3 c cs hp ih =>
    obtain ⟨m, ms, rfl⟩ := List.exists_cons_of_ne_nil hm
    have hcut : (m :: ms) ++ cs.drop ms.length = c :: cs := by
      have := List.prefix_iff_eq_append.mp (List.isPrefixOf_iff_prefix.mp hp)
      simpa using this
    obtain ⟨p, ps, hps⟩ := List.exists_cons_of_ne_nil
      (pieces_ne_nil (m :: ms) ((m :: ms).length - 1) cs)
    rw [hps] at ih ⊢
    simp only [List.length_cons, Nat.add_one_sub_one] at ih
    rw [List.drop_zero, ← hcut, ← ih]
    simp [List.intercalate]
  | case4 c cs _ ih =>
    rw [intercalate_modifyHead_cons _ _ (pieces_ne_nil _ _ _), ih]
    rfl

/-- Nothing is lost: the marker between the pieces gives the text. -/
theorem intercalate_split {marker : String} (hm : marker ≠ "") (s : String) :
    marker.intercalate (split marker s) = s := by
  apply String.ext
  have hm' : marker.toList ≠ [] := by simpa using hm
  have := intercalate_pieces marker.toList hm' 0 s.toList
  simpa [split, String.toList_intercalate, List.map_map, Function.comp_def] using this

end DialectSql.Text
