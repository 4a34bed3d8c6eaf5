import DialectSql.Proofs.Statement.Completeness
import Mathlib.Algebra.GroupWithZero.Nat

/-!
# The width of the rows that are written

An insertion is refused unless all rows have one width and there are as many columns, if there are
any (`Insert.Fits`). The lists are checked, but the text is made by `listed`, which leaves out empty
items: a row with an empty value is written with fewer values than were counted.

`Insert.length_fullText` counts what is left out, and by it `written_in_full_iff` says when all of
the lists that are written (`Insert.writtenLists`) have the width that was checked: exactly if none
of them has an empty item, or there is one item in each.

SQLite needs the names of the columns for several rows. `several_rows_sqlite` says when it inserts
them. The wildcard names no column and is dropped from among the keys: what counts are the others.
-/

set_option autoImplicit false

namespace DialectSql

/-! ## Items that are left out -/

/-- A list with separators has the length of its items and one separator less than items. -/
theorem length_intercalate (separator : String) (items : List String) :
    (separator.intercalate items).length =
      (items.map String.length).sum + (items.length - 1) * separator.length := by
  induction items with
  | nil => simp
  | cons first rest ih =>
    cases rest with
    | nil => simp
    | cons second rest =>
      rw [String.intercalate_cons_cons, String.length_append, String.length_append, ih]
      simp only [List.map_cons, List.sum_cons, List.length_cons, Nat.add_sub_cancel,
        Nat.add_mul, Nat.one_mul]
      omega

theorem sum_length_filter (items : List String) :
    ((items.filter (! ·.isEmpty)).map String.length).sum = (items.map String.length).sum := by
  induction items with
  | nil => rfl
  | cons item items ih =>
    by_cases hempty : item = ""
    · simp [hempty, ih]
    · simp [hempty, ih]

/-- The number of separators that are left out of a list together with its empty items. -/
def separatorsOmitted (items : List String) : Nat :=
  (items.length - 1) - ((items.filter (! ·.isEmpty)).length - 1)

/-- The full text of a list is longer by the separators that are left out. -/
theorem length_intercalate_eq_listed (separator : String) (items : List String) :
    (separator.intercalate items).length =
      (listed separator items).length + separatorsOmitted items * separator.length := by
  have hfewer : (items.filter (! ·.isEmpty)).length - 1 ≤ items.length - 1 :=
    Nat.sub_le_sub_right (List.length_filter_le _ items) 1
  have hall : items.length - 1 =
      (items.filter (! ·.isEmpty)).length - 1 + separatorsOmitted items :=
    (Nat.add_sub_of_le hfewer).symm
  rw [listed, length_intercalate, length_intercalate, sum_length_filter, hall, Nat.add_mul,
    Nat.add_assoc]

/-- A list is written in full if it has no empty item, or no item beside the empty one. -/
theorem separatorsOmitted_eq_zero_iff (items : List String) :
    separatorsOmitted items = 0 ↔ items.length = 1 ∨ "" ∉ items := by
  have hall : (items.filter (! ·.isEmpty)).length = items.length ↔ "" ∉ items := by
    rw [List.length_filter_eq_length_iff]
    constructor
    · intro h hempty
      simpa using h "" hempty
    · intro h item hitem
      have hne : item ≠ "" := fun hempty => h (hempty ▸ hitem)
      simpa using hne
  have hle : (items.filter (! ·.isEmpty)).length ≤ items.length := List.length_filter_le _ items
  have hnone : items.length = 0 → "" ∉ items := by
    intro hlength
    rw [List.length_eq_zero_iff.mp hlength]
    exact List.not_mem_nil
  rw [separatorsOmitted, ← hall]
  omega

/-- A list of which no separator is left out is written in full. -/
theorem listed_eq_of_separatorsOmitted (separator : String) {items : List String}
    (h : separatorsOmitted items = 0) :
    listed separator items = separator.intercalate items := by
  rcases (separatorsOmitted_eq_zero_iff items).mp h with hone | hempty
  · obtain ⟨item, rfl⟩ := List.length_eq_one_iff.mp hone
    by_cases hitem : item = ""
    · simp [listed, hitem]
    · simp [listed, hitem]
  · exact listed_eq_intercalate fun item hitem h => hempty (h ▸ hitem)

/-- Lists that are written in full are longer by the separators that are left out of each one. -/
theorem length_intercalate_lists (outer inner : String) {wrap : String → String} {added : Nat}
    (hwrap : ∀ t, (wrap t).length = t.length + added) (lists : List (List String)) :
    (outer.intercalate (lists.map fun items => wrap (inner.intercalate items))).length =
      (outer.intercalate (lists.map fun items => wrap (listed inner items))).length +
        (lists.map separatorsOmitted).sum * inner.length := by
  have hsum : (lists.map fun items => (wrap (inner.intercalate items)).length).sum =
      (lists.map fun items => (wrap (listed inner items)).length).sum +
        (lists.map separatorsOmitted).sum * inner.length := by
    induction lists with
    | nil => simp
    | cons items lists ih =>
      simp only [List.map_cons, List.sum_cons, Nat.add_mul]
      rw [ih, hwrap, hwrap, length_intercalate_eq_listed]
      omega
  rw [length_intercalate, length_intercalate, List.length_map, List.length_map, List.map_map,
    List.map_map]
  simp only [Function.comp_def, hsum]
  omega

namespace Insert

/-! ## The text against the full text -/

section Lengths

variable (reference : String) (s : Insert)

theorem length_fullHead :
    (s.fullHead reference).length =
      (s.head reference).length + separatorsOmitted s.columns * ",".length := by
  unfold fullHead head
  split
  · next hnone =>
    rw [hnone]
    rfl
  · simp only [String.length_append, length_intercalate_eq_listed]
    omega

theorem length_fullValuesText :
    (s.fullValuesText reference).length = (s.valuesText reference).length +
      ((s.columns :: s.rows).map separatorsOmitted).sum * ",".length := by
  have htuple (t : String) :
      ("(" ++ t ++ ")").length = t.length + ("(".length + ")".length) := by
    simp only [String.length_append]
    omega
  unfold fullValuesText valuesText
  simp only [String.length_append (_ ++ " VALUES "), String.length_append _ " VALUES ",
    length_fullHead, length_intercalate_lists ", " "," htuple, List.map_cons, List.sum_cons,
    Nat.add_mul]
  omega

/-- The full text is longer by the separators that are left out of the lists. -/
theorem length_fullText (d : Dialect) :
    (s.fullText d reference).length = (s.text d reference).length +
      ((s.writtenLists d).map separatorsOmitted).sum * (s.separator d).length := by
  unfold text fullText
  -- The lists and the separator are those of the form that the dialect has for as many rows.
  split
  · next hone =>
    obtain ⟨hlists, hseparator⟩ := writtenLists_of_columns (d := d) (Or.inl hone)
    rw [hlists, hseparator]
    exact length_fullValuesText reference s
  · next hseveral =>
    cases hd : d.multiRowForm with
    | valuesList =>
      obtain ⟨hlists, hseparator⟩ :=
        writtenLists_of_columns (d := d) (s := s) (Or.inr (by simp [hd]))
      rw [hlists, hseparator]
      exact length_fullValuesText reference s
    | dualUnion =>
      obtain ⟨hlists, hseparator⟩ :=
        writtenLists_of_columns (d := d) (s := s) (Or.inr (by simp [hd]))
      have hselection (t : String) :
          ("SELECT " ++ t ++ " FROM DUAL").length =
            t.length + ("SELECT ".length + " FROM DUAL".length) := by
        simp only [String.length_append]
        omega
      show _ = (s.dualUnionText reference).length + _
      unfold dualUnionText
      rw [hlists, hseparator]
      simp only [String.length_append (_ ++ " "), String.length_append _ " ", length_fullHead,
        length_intercalate_lists " UNION ALL " "," hselection, List.map_cons, List.sum_cons,
        Nat.add_mul]
      omega
    | aliasedUnion =>
      obtain ⟨hlists, hseparator⟩ := writtenLists_of_union hseveral hd
      have hselection (t : String) : ("SELECT " ++ t).length = t.length + "SELECT ".length := by
        rw [String.length_append, Nat.add_comm]
      show _ = (s.aliasedUnionText reference).length + _
      rw [hlists, hseparator, aliasedUnionText_eq, ← String.append_assoc]
      simp only [String.length_append (_ ++ " "),
        length_intercalate_lists " UNION " ", " hselection]
      omega

end Lengths

/-! ## The width of what is written -/

/-- A selection of the first row pairs each value with a column, so it is as wide as the row. -/
theorem length_of_mem_writtenLists {d : Dialect} {s : Insert} {width : Nat} (hfits : s.Fits width)
    (hunion : s.rows.length ≠ 1 → d.multiRowForm = .aliasedUnion → s.columns ≠ []) :
    ∀ items ∈ s.writtenLists d, items ≠ [] → items.length = width := by
  unfold writtenLists
  split
  · next hform =>
    have hcolumns := hfits.columns (hunion hform.1 hform.2)
    have hrows := hfits.rows
    unfold selections
    split
    · simp
    · next first rest hs =>
      rw [hs] at hrows
      obtain ⟨hfirst, hrest⟩ := List.forall_mem_cons.mp hrows
      intro items hitems _
      rcases List.mem_cons.mp hitems with rfl | hrow
      · rw [List.length_zipWith, hfirst, hcolumns, Nat.min_self]
      · exact hrest items hrow
  · intro items hitems hne
    rcases List.mem_cons.mp hitems with rfl | hrow
    · exact hfits.columns hne
    · exact hfits.rows items hrow

/-- The text is the full one exactly if no separator is left out. -/
theorem text_eq_fullText_iff (d : Dialect) (reference : String) (s : Insert) :
    s.text d reference = s.fullText d reference ↔
      ∀ items ∈ s.writtenLists d, items.length = 1 ∨ "" ∉ items := by
  constructor
  · -- Equal texts have one length, so no separator is left out of any list.
    intro htext items hitems
    have hlength := length_fullText reference s d
    have hseparator : 0 < (s.separator d).length := by
      unfold separator
      split <;> decide
    have hnone : ((s.writtenLists d).map separatorsOmitted).sum = 0 := by
      rw [htext] at hlength
      have hproduct := Nat.left_eq_add.mp hlength
      exact (Nat.mul_eq_zero.mp hproduct).resolve_right (Nat.ne_of_gt hseparator)
    rw [← separatorsOmitted_eq_zero_iff]
    exact List.sum_eq_zero_iff_forall_eq_nat.mp hnone _ (List.mem_map_of_mem hitems)
  · intro h
    apply text_eq_fullText_of_listed
    intro items hitems
    apply listed_eq_of_separatorsOmitted
    exact (separatorsOmitted_eq_zero_iff items).mpr (h items hitems)

/-- **The width of the rows.** All lists that are written for an insertion have the width that was
checked. They are written in full exactly if they have no empty item, or one item each. -/
theorem written_in_full_iff {d : Dialect} {n : TableNaming} {s : Insert} {sql : String}
    (h : s.build d n = .ok sql) :
    ∃ table width, requireName .store .table s.table = .ok table ∧ s.Fits width ∧
      (∀ items ∈ s.writtenLists d, items ≠ [] → items.length = width) ∧
      sql = s.text d (n.reference table) ∧
      (sql = s.fullText d (n.reference table) ↔
        width = 1 ∨ ∀ items ∈ s.writtenLists d, "" ∉ items) := by
  obtain ⟨table, htable, hcheck, hunion, rfl⟩ := exists_table_of_build h
  obtain ⟨width, hfits⟩ := checkRows_eq_ok_iff.mp hcheck
  have hwidth := length_of_mem_writtenLists hfits hunion
  refine ⟨table, width, htable, hfits, hwidth, rfl, ?_⟩
  rw [text_eq_fullText_iff]
  constructor
  · -- The exception of one item is one of the width, since all lists have the same.
    intro hfull
    by_cases hone : width = 1
    · exact Or.inl hone
    · apply Or.inr
      intro items hitems hempty
      have hlength := hwidth items hitems (List.ne_nil_of_mem hempty)
      rcases hfull items hitems with hsingle | hnone
      · exact hone (hlength.symm.trans hsingle)
      · exact hnone hempty
  · rintro (rfl | hnone) items hitems
    · by_cases hnil : items = []
      · exact Or.inr (hnil ▸ List.not_mem_nil)
      · exact Or.inl (hwidth items hitems hnil)
    · exact Or.inr (hnone items hitems)

/-- Two rows in SQLite with a value and a name in each place, and two empty values in one column. -/
theorem written_in_full_sqlite_mysql :
    let pairs : Insert := { table := some "t", keys := ["a", "b"], rows := [["1", ""], ["2", "3"]] }
    let single : Insert := { table := some "t", keys := ["a"], rows := [[""], [""]] }
    let n := TableNaming.placeholder (.standard .sqlite)
    pairs.build .sqlite n =
        .ok "INSERT INTO *_DBPREFIX_*t SELECT 1 AS a,  AS b UNION SELECT 2, 3" ∧
      single.build .mysqli n = .ok "INSERT INTO *_DBPREFIX_*t (a) VALUES (), ()" ∧
      "INSERT INTO *_DBPREFIX_*t SELECT 1 AS a,  AS b UNION SELECT 2, 3" =
        pairs.fullText .sqlite (n.reference "t") ∧
      "INSERT INTO *_DBPREFIX_*t (a) VALUES (), ()" =
        single.fullText .mysqli (n.reference "t") := by
  intro pairs single n
  have hbuild : pairs.build .sqlite n =
      .ok "INSERT INTO *_DBPREFIX_*t SELECT 1 AS a,  AS b UNION SELECT 2, 3" := rfl
  have hbuild' : single.build .mysqli n = .ok "INSERT INTO *_DBPREFIX_*t (a) VALUES (), ()" := rfl
  have hname : requireName .store .table (some "t") = .ok "t" := rfl
  obtain ⟨table, width, htable, -, -, -, hfull⟩ := written_in_full_iff hbuild
  obtain ⟨table', width', htable', hfits', -, -, hfull'⟩ := written_in_full_iff hbuild'
  obtain rfl : table = "t" := Except.ok.inj (htable.symm.trans hname)
  obtain rfl : table' = "t" := Except.ok.inj (htable'.symm.trans hname)
  have hwidth' : [""].length = width' := hfits'.rows [""] List.mem_cons_self
  exact ⟨hbuild, hbuild', hfull.mpr (Or.inr (by decide)), hfull'.mpr (Or.inl hwidth'.symm)⟩

/-- A row of two values, of which one is empty, is written for two columns as one value. -/
theorem written_with_fewer_values :
    let s : Insert := { table := some "t", keys := ["a", "b"], rows := [["", "1"]] }
    let n := TableNaming.placeholder (.standard .postgresql)
    s.checkRows = .ok () ∧
      s.build .postgresql n = .ok "INSERT INTO *_DBPREFIX_*t (a,b) VALUES (1)" ∧
      s.fullText .postgresql (n.reference "t") = "INSERT INTO *_DBPREFIX_*t (a,b) VALUES (,1)" :=
  ⟨rfl, rfl, rfl⟩

/-! ## Several rows in SQLite -/

/-- An insertion without the wildcards among its keys. -/
def withoutWildcards (s : Insert) : Insert := { s with keys := s.columns }

theorem columns_withoutWildcards (s : Insert) : s.withoutWildcards.columns = s.columns := by
  simp [withoutWildcards, columns]

/-- The wildcards among the keys make no difference to an insertion. -/
theorem build_withoutWildcards (d : Dialect) (n : TableNaming) (s : Insert) :
    s.withoutWildcards.build d n = s.build d n := by
  unfold build checkRows valuesText dualUnionText aliasedUnionText head
  rw [columns_withoutWildcards]
  rfl

/-- In SQLite several rows are written as a union with aliases, which needs columns. -/
theorem build_several_sqlite (n : TableNaming) {s : Insert} (hseveral : 1 < s.rows.length) :
    s.build .sqlite n =
      (requireName .store .table s.table).bind fun table =>
        s.checkRows.bind fun _ =>
          if s.columns = [] then .error (.missing .store .keys)
          else .ok (s.aliasedUnionText (n.reference table)) := by
  unfold build
  simp only [if_neg (Nat.ne_of_gt hseveral)]
  by_cases hnone : s.columns = []
  · simp only [if_pos hnone]
    rfl
  · simp only [if_neg hnone]
    rfl

/-- **Several rows in SQLite.** They are inserted exactly if some key names a column and the rows
have as many values as there are such keys. The wildcards are dropped from among the keys, wherever
they stand; if there are only wildcards, the keys are missing. -/
theorem several_rows_sqlite (n : TableNaming) {s : Insert} (hseveral : 1 < s.rows.length) :
    (∀ sql, s.build .sqlite n = .ok sql ↔
        ∃ table, requireName .store .table s.table = .ok table ∧ s.columns ≠ [] ∧
          (∀ row ∈ s.rows, row.length = s.columns.length) ∧
          sql = s.aliasedUnionText (n.reference table)) ∧
      s.build .sqlite n = s.withoutWildcards.build .sqlite n ∧
      ((∀ k ∈ s.keys, k = "*") →
        s.build .sqlite n = do
          let _ ← requireName .store .table s.table
          s.checkRows
          throw (.missing .store .keys)) := by
  have hne : s.rows.length ≠ 1 := Nat.ne_of_gt hseveral
  refine ⟨fun sql => ⟨?_, ?_⟩, (build_withoutWildcards .sqlite n s).symm, ?_⟩
  · intro h
    obtain ⟨table, htable, hcheck, hunion, htext⟩ := exists_table_of_build h
    obtain ⟨width, hfits⟩ := checkRows_eq_ok_iff.mp hcheck
    have hcolumns := hunion hne rfl
    have hwidth := hfits.columns hcolumns
    rw [text, if_neg hne] at htext
    exact ⟨table, htable, hcolumns, fun row hrow => (hfits.rows row hrow).trans hwidth.symm, htext⟩
  · rintro ⟨table, htable, hcolumns, hrows, rfl⟩
    have hfits : s.Fits s.columns.length :=
      { rows_ne_nil := List.ne_nil_of_length_pos (Nat.zero_lt_of_lt hseveral)
        width_pos := List.length_pos_iff.mpr hcolumns
        rows := hrows
        columns := fun _ => rfl }
    rw [build_several_sqlite n hseveral, htable, checkRows_eq_ok_iff.mpr ⟨_, hfits⟩]
    exact if_neg hcolumns
  · intro hwild
    have hnone : s.columns = [] := by
      unfold columns
      rw [List.filter_eq_nil_iff]
      intro k hk
      simpa using hwild k hk
    rw [build_several_sqlite n hseveral]
    simp only [if_pos hnone]
    rfl

/-- Two columns with a wildcard between them, and wildcards alone. -/
theorem several_rows_sqlite_wildcards :
    let n := TableNaming.placeholder (.standard .sqlite)
    let named : Insert :=
      { table := some "t", keys := ["a", "*", "b"], rows := [["1", "2"], ["3", "4"]] }
    let wild : Insert := { table := some "t", keys := ["*", "*"], rows := [["1", "2"], ["3", "4"]] }
    1 < named.rows.length ∧ 1 < wild.rows.length ∧
      named.build .sqlite n =
        .ok "INSERT INTO *_DBPREFIX_*t SELECT 1 AS a, 2 AS b UNION SELECT 3, 4" ∧
      wild.build .sqlite n = .error (.missing .store .keys) := by
  intro n named wild
  have hnamed : 1 < named.rows.length := by decide
  have hwild : 1 < wild.rows.length := by decide
  refine ⟨hnamed, hwild, ?_, ?_⟩
  · exact ((several_rows_sqlite n hnamed).1 _).mpr ⟨"t", rfl, by decide, by decide, rfl⟩
  · exact (several_rows_sqlite n hwild).2.2 (by decide)

/-- A wildcard behind a column is dropped, and the rows are inserted into that column. -/
theorem several_rows_sqlite_of_wildcard :
    let s : Insert := { table := some "t", keys := ["a", "*"], rows := [["1"], ["2"]] }
    let n := TableNaming.placeholder (.standard .sqlite)
    1 < s.rows.length ∧ "*" ∈ s.keys ∧
      s.build .sqlite n = .ok "INSERT INTO *_DBPREFIX_*t SELECT 1 AS a UNION SELECT 2" :=
  ⟨by decide, by decide, rfl⟩

end Insert

end DialectSql
