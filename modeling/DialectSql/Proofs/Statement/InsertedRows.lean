import DialectSql.Proofs.Query.Outcome
import DialectSql.Proofs.RowReader
import DialectSql.Proofs.Text.Spelling
import DialectSql.Statement.Insert

/-!
# The rows of an insertion

An insertion writes its rows in one of three forms: a list of values, selections from a table of one
row with `UNION ALL` between them, or selections with `UNION` between them. `Insert.lexemes` spells
each form, with the reference to the table, the columns and the values as atoms, and `RowReader`
reads the rows from it.

The first two forms insert every row that was supplied, equal rows as often as they were supplied.
The third one, which SQLite has for several rows, inserts one copy of equal rows: `UNION` removes
duplicates. So all rows are inserted there exactly if no two of them are equal (`inserted_rows`).
-/

set_option autoImplicit false

namespace DialectSql

open Text RowReader

namespace Insert

/-! ## Lexemes -/

/-- Atoms with a separator between them. -/
def atoms (sep : List Lexeme) (items : List String) : List Lexeme :=
  sep.intercalate (items.map fun s => [.atom s])

/-- The list of columns behind the table, if there is one. -/
def columnLexemes (s : Insert) : List Lexeme :=
  if s.columns = [] then []
  else [.blank, .opening] ++ atoms [.comma] s.columns ++ [.closing]

/-- A row of a list of values. -/
def tupleLexemes (row : List String) : List Lexeme :=
  [.opening] ++ atoms [.comma] row ++ [.closing]

/-- A row as a selection from a table of one row. -/
def dualLexemes (row : List String) : List Lexeme :=
  [.select, .blank] ++ atoms [.comma] row ++ [.blank, .fromDual]

/-- A row as a selection without a table. -/
def selectionLexemes (row : List String) : List Lexeme :=
  [.select, .blank] ++ atoms [.comma, .blank] row

/-- A row as a selection that names the columns. -/
def namedLexemes (row columns : List String) : List Lexeme :=
  [.select, .blank] ++ [.comma, .blank].intercalate
    (row.zipWith (fun v k => [.atom v, .blank, .named, .blank, .atom k]) columns)

/-- The rows as a list of values. -/
def valuesLexemes (s : Insert) : List Lexeme :=
  s.columnLexemes ++ [.blank, .values, .blank] ++
    [.comma, .blank].intercalate (s.rows.map tupleLexemes)

/-- The rows as selections from a table of one row. -/
def dualUnionLexemes (s : Insert) : List Lexeme :=
  s.columnLexemes ++ [.blank] ++
    [.blank, .unionAll, .blank].intercalate (s.rows.map dualLexemes)

/-- The rows as a union of selections, of which the first names the columns. -/
def aliasedUnionLexemes (s : Insert) : List Lexeme :=
  [.blank] ++ [.blank, .union, .blank].intercalate
    (match s.rows with
      | [] => []
      | first :: rest => namedLexemes first s.columns :: rest.map selectionLexemes)

/-- The lexemes of an insertion into the table of the given reference. -/
def lexemes (d : Dialect) (reference : String) (s : Insert) : List Lexeme :=
  [.insertInto, .blank, .atom reference] ++
    (if s.rows.length = 1 then s.valuesLexemes
      else
        match d.multiRowForm with
        | .valuesList => s.valuesLexemes
        | .dualUnion => s.dualUnionLexemes
        | .aliasedUnion => s.aliasedUnionLexemes)

/-! ## The text is spelled by the lexemes -/

/-- Atoms with lexemes between them are spelled as a list with a separator. -/
theorem spelled_atoms (sep : List Lexeme) (items : List String) :
    spelled Lexeme.text (atoms sep items) = (spelled Lexeme.text sep).intercalate items := by
  rw [atoms, spelled_intercalate, List.map_map]
  simp [Function.comp_def, Lexeme.text]

/-- The columns are spelled in parentheses, if there are any. -/
theorem spelled_columnLexemes {s : Insert} (hcolumns : ∀ k ∈ s.columns, k ≠ "") :
    spelled Lexeme.text s.columnLexemes =
      if s.columns = [] then "" else " (" ++ listed "," s.columns ++ ")" := by
  unfold columnLexemes
  split
  · rfl
  · simp only [spelled_append, spelled_atoms, listed_eq_intercalate hcolumns]
    rfl

theorem spelled_tupleLexemes {row : List String} (hrow : ∀ v ∈ row, v ≠ "") :
    spelled Lexeme.text (tupleLexemes row) = "(" ++ listed "," row ++ ")" := by
  simp only [tupleLexemes, spelled_append, spelled_atoms, listed_eq_intercalate hrow]
  rfl

/-- A row of the dual table is spelled as a selection of its values. -/
theorem spelled_dualLexemes {row : List String} (hrow : ∀ v ∈ row, v ≠ "") :
    spelled Lexeme.text (dualLexemes row) = "SELECT " ++ listed "," row ++ " FROM DUAL" := by
  simp only [dualLexemes, spelled_append, spelled_atoms, listed_eq_intercalate hrow]
  rfl

theorem spelled_selectionLexemes {row : List String} (hrow : ∀ v ∈ row, v ≠ "") :
    spelled Lexeme.text (selectionLexemes row) = "SELECT " ++ listed ", " row := by
  simp only [selectionLexemes, spelled_append, spelled_atoms, listed_eq_intercalate hrow]
  rfl

/-- The first row of a union with aliases is spelled with the name of each column. -/
theorem spelled_namedLexemes (row columns : List String) :
    spelled Lexeme.text (namedLexemes row columns) =
      "SELECT " ++ listed ", " (row.zipWith (fun v k => v ++ " AS " ++ k) columns) := by
  have hitems : ∀ item ∈ row.zipWith (fun v k => v ++ " AS " ++ k) columns, item ≠ "" := by
    intro item hitem
    obtain ⟨i, hi, rfl⟩ := List.mem_iff_getElem.mp hitem
    rw [List.getElem_zipWith]
    simp [String.append_eq_empty_iff]
  have hitem (v k : String) :
      spelled Lexeme.text [.atom v, .blank, .named, .blank, .atom k] = v ++ " AS " ++ k := by
    have hword : " AS " = " " ++ "AS" ++ " " := rfl
    simp only [spelled_cons, spelled_nil, Lexeme.text, hword, String.append_empty,
      String.append_assoc]
  simp only [namedLexemes, spelled_append, spelled_intercalate, List.map_zipWith,
    listed_eq_intercalate hitems, hitem]
  rfl

theorem spelled_head (reference : String) :
    spelled Lexeme.text [.insertInto, .blank, .atom reference] = "INSERT INTO " ++ reference := by
  have hwords : "INSERT INTO " = "INSERT INTO" ++ " " := rfl
  simp only [spelled_cons, spelled_nil, Lexeme.text, hwords, String.append_empty,
    String.append_assoc]

section Spelled

variable {s : Insert} (reference : String) (hcolumns : ∀ k ∈ s.columns, k ≠ "")
  (hrows : ∀ row ∈ s.rows, ∀ v ∈ row, v ≠ "")
include hrows

/-- The lexemes of a union with aliases spell its text. -/
theorem spelled_aliasedUnionLexemes :
    spelled Lexeme.text ([.insertInto, .blank, .atom reference] ++ s.aliasedUnionLexemes) =
      s.aliasedUnionText reference := by
  have hunion : spelled Lexeme.text [.blank, .union, .blank] = " UNION " := rfl
  unfold aliasedUnionLexemes aliasedUnionText
  cases hs : s.rows with
  | nil =>
    simp only [spelled_append, spelled_head, String.append_assoc]
    rfl
  | cons first rest =>
    rw [hs] at hrows
    have hrest := List.map_congr_left fun row hrow =>
      spelled_selectionLexemes (hrows row (List.mem_cons_of_mem first hrow))
    simp only [spelled_append, spelled_head, spelled_intercalate, hunion, List.map_cons,
      spelled_namedLexemes, List.map_map, Function.comp_def, hrest, String.append_assoc]
    rfl

include hcolumns

theorem spelled_valuesLexemes :
    spelled Lexeme.text ([.insertInto, .blank, .atom reference] ++ s.valuesLexemes) =
      s.valuesText reference := by
  have htuples := List.map_congr_left fun row hrow => spelled_tupleLexemes (hrows row hrow)
  have hvalues : spelled Lexeme.text [.blank, .values, .blank] = " VALUES " := rfl
  have hcomma : spelled Lexeme.text [.comma, .blank] = ", " := rfl
  simp only [valuesLexemes, spelled_append, spelled_columnLexemes hcolumns, spelled_intercalate,
    List.map_map, Function.comp_def, htuples, spelled_head, hvalues, hcomma, valuesText, head,
    String.append_assoc]

theorem spelled_dualUnionLexemes :
    spelled Lexeme.text ([.insertInto, .blank, .atom reference] ++ s.dualUnionLexemes) =
      s.dualUnionText reference := by
  have hselections := List.map_congr_left fun row hrow => spelled_dualLexemes (hrows row hrow)
  have hblank : spelled Lexeme.text [.blank] = " " := rfl
  have hunion : spelled Lexeme.text [.blank, .unionAll, .blank] = " UNION ALL " := rfl
  simp only [dualUnionLexemes, spelled_append, spelled_columnLexemes hcolumns,
    spelled_intercalate, List.map_map, Function.comp_def, hselections, spelled_head, hblank,
    hunion, dualUnionText, head, String.append_assoc]

end Spelled

/-- The text of an insertion in the form that its dialect has for as many rows. -/
def text (d : Dialect) (reference : String) (s : Insert) : String :=
  if s.rows.length = 1 then s.valuesText reference
  else
    match d.multiRowForm with
    | .valuesList => s.valuesText reference
    | .dualUnion => s.dualUnionText reference
    | .aliasedUnion => s.aliasedUnionText reference

/-- The text of an insertion is spelled by its lexemes, since none of the items that are left out of
a text is there. -/
theorem spelled_lexemes {d : Dialect} {s : Insert} (reference : String)
    (hcolumns : ∀ k ∈ s.columns, k ≠ "") (hrows : ∀ row ∈ s.rows, ∀ v ∈ row, v ≠ "") :
    spelled Lexeme.text (s.lexemes d reference) = s.text d reference := by
  unfold lexemes text
  split
  · exact spelled_valuesLexemes reference hcolumns hrows
  · cases d.multiRowForm with
    | valuesList => exact spelled_valuesLexemes reference hcolumns hrows
    | dualUnion => exact spelled_dualUnionLexemes reference hcolumns hrows
    | aliasedUnion => exact spelled_aliasedUnionLexemes reference hrows

/-! ## What is built -/

/-- What an insertion that is not refused has, and its text. -/
theorem exists_table_of_build {d : Dialect} {n : TableNaming} {s : Insert} {text : String}
    (h : s.build d n = .ok text) :
    ∃ table, requireName .store .table s.table = .ok table ∧ s.checkRows = .ok () ∧
      (s.rows.length ≠ 1 → d.multiRowForm = .aliasedUnion → s.columns ≠ []) ∧
      text = s.text d (n.reference table) := by
  obtain ⟨table, htable, hrest⟩ := exists_of_bind_eq_ok h
  obtain ⟨⟨⟩, hcheck, hform⟩ := exists_of_bind_eq_ok hrest
  refine ⟨table, htable, hcheck, ?_⟩
  unfold Insert.text
  split at hform
  · next hone =>
    rw [if_pos hone]
    exact ⟨fun hne => absurd hone hne, (Except.ok.inj hform).symm⟩
  · next hone =>
    rw [if_neg hone]
    cases hd : d.multiRowForm with
    | valuesList =>
      rw [hd] at hform
      exact ⟨by simp, (Except.ok.inj hform).symm⟩
    | dualUnion =>
      rw [hd] at hform
      exact ⟨by simp, (Except.ok.inj hform).symm⟩
    | aliasedUnion =>
      rw [hd] at hform
      dsimp only at hform
      split at hform
      · cases hform
      · next hkeys => exact ⟨fun _ _ => hkeys, (Except.ok.inj hform).symm⟩

/-- Rows and columns that go together: there are rows, all of one width that is not zero, and as
many columns as values unless there is no column at all. -/
structure Fits (s : Insert) (width : Nat) : Prop where
  rows_ne_nil : s.rows ≠ []
  width_pos : 0 < width
  rows : ∀ row ∈ s.rows, row.length = width
  columns : s.columns ≠ [] → s.columns.length = width

theorem find?_width_eq_none_iff (rows : List (List String)) (width : Nat) :
    rows.zipIdx.find? (fun (row, _) => row.length != width) = none ↔
      ∀ row ∈ rows, row.length = width := by
  rw [List.find?_eq_none]
  constructor
  · intro h row hrow
    rw [← List.zipIdx_map_fst 0 rows] at hrow
    obtain ⟨indexed, hindexed, rfl⟩ := List.mem_map.mp hrow
    simpa using h indexed hindexed
  · intro h indexed hindexed
    simpa using h indexed.1 (List.fst_mem_of_mem_zipIdx hindexed)

/-- The check accepts exactly the rows and columns that go together. -/
theorem checkRows_eq_ok_iff {s : Insert} : s.checkRows = .ok () ↔ ∃ width, s.Fits width := by
  unfold checkRows
  cases hs : s.rows with
  | nil =>
    constructor
    · intro h
      cases h
    · rintro ⟨width, hfits⟩
      exact absurd hs hfits.rows_ne_nil
  | cons first rest =>
    dsimp only
    constructor
    · intro h
      split at h
      · cases h
      · next hfirst =>
        split at h
        · cases h
        · next hwidth =>
          split at h
          · cases h
          · next hcount =>
            refine ⟨first.length, by simp [hs], List.length_pos_iff.mpr hfirst, ?_, ?_⟩
            · rw [hs]
              exact (find?_width_eq_none_iff _ _).mp hwidth
            · intro hcolumns
              by_contra hlength
              exact hcount ⟨hcolumns, hlength⟩
    · rintro ⟨width, hfits⟩
      obtain rfl : first.length = width := hfits.rows first (hs ▸ List.mem_cons_self)
      have hfirst : first ≠ [] := List.length_pos_iff.mp hfits.width_pos
      have hwidth := (find?_width_eq_none_iff (first :: rest) first.length).mpr (hs ▸ hfits.rows)
      have hcount : ¬ (s.columns ≠ [] ∧ s.columns.length ≠ first.length) := by
        rintro ⟨hcolumns, hlength⟩
        exact hlength (hfits.columns hcolumns)
      rw [if_neg hfirst, hwidth]
      exact if_neg hcount

/-- Checked rows are not empty, and the first one has a value for each column. -/
theorem exists_rows_of_checkRows {s : Insert} (h : s.checkRows = .ok ()) :
    ∃ first rest, s.rows = first :: rest ∧ (∀ row ∈ s.rows, row ≠ []) ∧
      (s.columns ≠ [] → s.columns.length = first.length) := by
  obtain ⟨width, hfits⟩ := checkRows_eq_ok_iff.mp h
  obtain ⟨first, rest, hs⟩ := List.exists_cons_of_ne_nil hfits.rows_ne_nil
  obtain rfl : first.length = width := hfits.rows first (hs ▸ List.mem_cons_self)
  refine ⟨first, rest, hs, ?_, hfits.columns⟩
  intro row hrow
  exact List.length_pos_iff.mp ((hfits.rows row hrow).symm ▸ hfits.width_pos)

/-! ## The machine reads the rows -/

section Reads

variable {V : Type} (value : String → V)

/-- Values with a separator between them are all put to the latest row. -/
theorem run_atoms {sep : List Lexeme} {items : List String} (hne : items ≠ []) {p q : Place}
    (hatom : ∀ rows s, run value ⟨p, rows⟩ [.atom s] = some ⟨q, extend (value s) rows⟩)
    (hsep : ∀ rows, run value ⟨q, rows⟩ sep = some ⟨p, rows⟩) (distinct : Bool)
    (earlier : List (Bool × List V)) :
    run value ⟨p, (distinct, []) :: earlier⟩ (atoms sep items) =
      some ⟨q, (distinct, items.map value) :: earlier⟩ := by
  have hlist := run_intercalate value (⟨p, ·⟩) (⟨q, ·⟩) (fun rows s => extend (value s) rows)
    (fun rows s _ => hatom rows s) (fun rows s => hsep _) hne ((distinct, []) :: earlier)
  have hfold := foldl_extend (items.map value) distinct [] earlier
  rw [List.foldl_map, List.nil_append] at hfold
  rwa [hfold] at hlist

/-- The machine reads a row of values as one row. -/
theorem run_tupleLexemes {row : List String} (hne : row ≠ []) (rows : List (Bool × List V)) :
    run value ⟨.tuple, rows⟩ (tupleLexemes row) =
      some ⟨.tupleEnd, (false, row.map value) :: rows⟩ := by
  have hcells : run value ⟨.cell, (false, []) :: rows⟩ (atoms [.comma] row) =
      some ⟨.cellEnd, (false, row.map value) :: rows⟩ :=
    run_atoms value hne (fun _ _ => rfl) (fun _ => rfl) false rows
  have hopening : run value ⟨.tuple, rows⟩ [.opening] = some ⟨.cell, (false, []) :: rows⟩ := rfl
  rw [tupleLexemes, List.append_assoc, run_append value hopening, run_append value hcells]
  rfl

section Selections

variable {p : Place} {distinct : Bool}
  (hselect : ∀ rows : List (Bool × List V),
    run value ⟨p, rows⟩ [.select, .blank] = some ⟨.item, (distinct, []) :: rows⟩)
  {row : List String} (hne : row ≠ []) (rows : List (Bool × List V))
include hselect hne

theorem run_selectionLexemes :
    run value ⟨p, rows⟩ (selectionLexemes row) =
      some ⟨.itemEnd, (distinct, row.map value) :: rows⟩ := by
  rw [selectionLexemes, run_append value (hselect rows)]
  exact run_atoms value hne (fun _ _ => rfl) (fun _ => rfl) distinct rows

theorem run_dualLexemes :
    run value ⟨p, rows⟩ (dualLexemes row) =
      some ⟨.operandEnd, (distinct, row.map value) :: rows⟩ := by
  have hitems : run value ⟨.item, (distinct, []) :: rows⟩ (atoms [.comma] row) =
      some ⟨.itemEnd, (distinct, row.map value) :: rows⟩ :=
    run_atoms value hne (fun _ _ => rfl) (fun _ => rfl) distinct rows
  rw [dualLexemes, List.append_assoc, run_append value (hselect rows), run_append value hitems]
  rfl

/-- The names of the columns are read over. -/
theorem run_namedLexemes {columns : List String} (hcolumns : columns.length = row.length) :
    run value ⟨p, rows⟩ (namedLexemes row columns) =
      some ⟨.itemEnd, (distinct, row.map value) :: rows⟩ := by
  -- The machine takes the value of each pair, and with enough names these are all values.
  have hfst : (row.zip columns).map Prod.fst = row := List.map_fst_zip (by omega)
  have hzip : row.zip columns ≠ [] := by
    intro hempty
    rw [hempty] at hfst
    exact hne hfst.symm
  have hvalues : (row.zip columns).map (fun pair => value pair.1) = row.map value := by
    conv_rhs => rw [← hfst, List.map_map]
    rfl
  have hlist : run value ⟨.item, (distinct, []) :: rows⟩ ([.comma, .blank].intercalate
      ((row.zip columns).map fun pair => [.atom pair.1, .blank, .named, .blank, .atom pair.2])) =
        some ⟨.itemEnd, (row.zip columns).foldl (fun rows pair => extend (value pair.1) rows)
          ((distinct, []) :: rows)⟩ :=
    run_intercalate value (⟨.item, ·⟩) (⟨.itemEnd, ·⟩) _ (fun _ _ _ => rfl) (fun _ _ => rfl) hzip _
  have hfold := foldl_extend (row.map value) distinct [] rows
  rw [← hvalues, List.foldl_map, List.nil_append, hvalues] at hfold
  rw [hfold, List.map_zip_eq_zipWith] at hlist
  rw [namedLexemes, run_append value (hselect rows)]
  exact hlist

end Selections

/-- The first selection of a union is read as any other, and each further one is put to those in
front of it. -/
theorem run_union {sep first : List Lexeme} {f : List String → List Lexeme} {r : Reading V}
    {q : Place} {rows : List (Bool × List V)} {distinct : Bool} {rest : List (List String)}
    (hfirst : run value r first = some ⟨q, rows⟩)
    (hsep : ∀ rows, run value ⟨q, rows⟩ sep = some ⟨.operand distinct, rows⟩)
    (hf : ∀ rows, ∀ row ∈ rest,
      run value ⟨.operand distinct, rows⟩ (f row) = some ⟨q, (distinct, row.map value) :: rows⟩)
    (hne : rest ≠ []) :
    run value r (sep.intercalate (first :: rest.map f)) =
      some ⟨q, (rest.map (List.map value)).foldl
        (fun earlier row => (distinct, row) :: earlier) rows⟩ := by
  have hlist := run_intercalate value (⟨.operand distinct, ·⟩) (⟨q, ·⟩)
    (fun rows row => (distinct, List.map value row) :: rows) hf (fun rows row => hsep _) hne rows
  rw [List.intercalate_cons_of_ne_nil (by simpa using hne), List.append_assoc,
    run_append value hfirst, run_append value (hsep rows), hlist, List.foldl_map]

/-- Behind the list of columns, or behind the table if there is none, the rows can start. -/
theorem exists_run_columnLexemes (s : Insert) :
    ∃ p : Place, (p = .target ∨ p = .source) ∧
      run value ⟨.target, []⟩ s.columnLexemes = some ⟨p, []⟩ := by
  by_cases hcolumns : s.columns = []
  · exact ⟨.target, Or.inl rfl, by rw [columnLexemes, if_pos hcolumns]; rfl⟩
  · refine ⟨.source, Or.inr rfl, ?_⟩
    have hnames : run value ⟨.columns, []⟩ (atoms [.comma] s.columns) = some ⟨.columns, []⟩ :=
      run_intercalate value (fun _ : Unit => ⟨.columns, []⟩) (fun _ => ⟨.columns, []⟩)
        (fun _ _ => ()) (fun _ _ _ => rfl) (fun _ _ => rfl) hcolumns ()
    have hopening : run value ⟨.target, []⟩ [.blank, .opening] = some ⟨.columns, []⟩ := rfl
    rw [columnLexemes, if_neg hcolumns, List.append_assoc, run_append value hopening,
      run_append value hnames]
    rfl

section Forms

variable {s : Insert} (hrows : ∀ row ∈ s.rows, row ≠ [])
include hrows

/-- The machine reads a list of values as its rows, the last one on top. -/
theorem run_valuesLexemes (hne : s.rows ≠ []) :
    run value ⟨.target, []⟩ s.valuesLexemes =
      some ⟨.tupleEnd, (s.rows.map (List.map value)).foldl
        (fun earlier row => (false, row) :: earlier) []⟩ := by
  obtain ⟨p, hp, hcolumns⟩ := exists_run_columnLexemes value s
  have hvalues : run value ⟨p, []⟩ [.blank, .values, .blank] = some ⟨.tuple, []⟩ := by
    rcases hp with rfl | rfl <;> rfl
  have htuples : run value ⟨.tuple, []⟩ ([.comma, .blank].intercalate (s.rows.map tupleLexemes)) =
      some ⟨.tupleEnd, s.rows.foldl (fun earlier row => (false, row.map value) :: earlier) []⟩ :=
    run_intercalate value (⟨.tuple, ·⟩) (⟨.tupleEnd, ·⟩) _
      (fun rows row hrow => run_tupleLexemes value (hrows row hrow) rows) (fun _ _ => rfl) hne []
  rw [valuesLexemes, List.append_assoc, run_append value hcolumns, run_append value hvalues,
    htuples, List.foldl_map]

variable {first second : List String} {rest : List (List String)}
  (hs : s.rows = first :: second :: rest)
include hs

/-- The machine reads a union over the dual table as its rows, none of them distinct. -/
theorem run_dualUnionLexemes :
    run value ⟨.target, []⟩ s.dualUnionLexemes =
      some ⟨.operandEnd, (s.rows.map (List.map value)).foldl
        (fun earlier row => (false, row) :: earlier) []⟩ := by
  obtain ⟨p, hp, hcolumns⟩ := exists_run_columnLexemes value s
  rw [hs, List.forall_mem_cons] at hrows
  have hblank : run value ⟨p, []⟩ [.blank] = some ⟨p, []⟩ := rfl
  have hfirst : run value ⟨p, []⟩ (dualLexemes first) =
      some ⟨.operandEnd, [(false, first.map value)]⟩ := by
    refine run_dualLexemes value (fun rows => ?_) hrows.1 []
    rcases hp with rfl | rfl <;> rfl
  have hunion : run value ⟨p, []⟩ ([.blank, .unionAll, .blank].intercalate
      (dualLexemes first :: (second :: rest).map dualLexemes)) = _ :=
    run_union value hfirst (fun _ => rfl)
      (fun rows row hrow => run_dualLexemes value (fun _ => rfl) (hrows.2 row hrow) rows)
      (List.cons_ne_nil second rest)
  rw [dualUnionLexemes, List.append_assoc, run_append value hcolumns, run_append value hblank, hs,
    List.map_cons, hunion]
  rfl

/-- The machine reads a union with aliases as its rows, with all but the first one to be made
distinct. -/
theorem run_aliasedUnionLexemes (hcolumns : s.columns.length = first.length) :
    run value ⟨.target, []⟩ s.aliasedUnionLexemes =
      some ⟨.itemEnd, ((second :: rest).map (List.map value)).foldl
        (fun earlier row => (true, row) :: earlier) [(false, first.map value)]⟩ := by
  rw [hs, List.forall_mem_cons] at hrows
  have hblank : run value ⟨.target, []⟩ [.blank] = some ⟨.target, []⟩ := rfl
  have hfirst : run value ⟨.target, []⟩ (namedLexemes first s.columns) =
      some ⟨.itemEnd, [(false, first.map value)]⟩ :=
    run_namedLexemes value (fun _ => rfl) hrows.1 [] hcolumns
  rw [aliasedUnionLexemes, run_append value hblank, hs]
  exact run_union value hfirst (fun _ => rfl)
    (fun rows row hrow => run_selectionLexemes value (fun _ => rfl) (hrows.2 row hrow) rows)
    (List.cons_ne_nil second rest)

end Forms

end Reads

/-! ## What is inserted -/

variable {V : Type} [DecidableEq V] (value : String → V)

/-- Where the machine stops at an end, the rows it has are the inserted ones. -/
theorem readRows_of_run {body : List Lexeme} {r : Reading V} (reference : String)
    (h : run value ⟨.target, []⟩ body = some r) (hend : r.place.isEnd = true) :
    readRows value ([.insertInto, .blank, .atom reference] ++ body) = some (inserted r.rows) := by
  have hhead : run value ⟨.start, []⟩ [.insertInto, .blank, .atom reference] =
      some ⟨.target, []⟩ := rfl
  rw [readRows, run_append value hhead, h]
  exact if_pos hend

/-- The rows that were supplied. -/
def supplied (s : Insert) : Multiset (List V) := ↑(s.rows.map (List.map value))

omit [DecidableEq V] in
theorem nodup_supplied_of_length {s : Insert} (h : s.rows.length = 1) :
    (s.supplied value).Nodup := by
  obtain ⟨row, hrow⟩ := List.length_eq_one_iff.mp h
  rw [supplied, hrow]
  exact Multiset.nodup_singleton _

section Forms

variable {s : Insert} (hrows : ∀ row ∈ s.rows, row ≠ []) (reference : String)
include hrows

/-- A list of values inserts the rows that were given. -/
theorem readRows_valuesLexemes (hne : s.rows ≠ []) :
    readRows value ([.insertInto, .blank, .atom reference] ++ s.valuesLexemes) =
      some (s.supplied value) := by
  rw [readRows_of_run value reference (run_valuesLexemes value hrows hne) rfl,
    inserted_foldl_false]
  exact congrArg some (Multiset.add_zero _)

variable {first second : List String} {rest : List (List String)}
  (hs : s.rows = first :: second :: rest)
include hs

theorem readRows_dualUnionLexemes :
    readRows value ([.insertInto, .blank, .atom reference] ++ s.dualUnionLexemes) =
      some (s.supplied value) := by
  rw [readRows_of_run value reference (run_dualUnionLexemes value hrows hs) rfl,
    inserted_foldl_false]
  exact congrArg some (Multiset.add_zero _)

/-- A union with aliases inserts each row once. -/
theorem readRows_aliasedUnionLexemes (hcolumns : s.columns.length = first.length) :
    readRows value ([.insertInto, .blank, .atom reference] ++ s.aliasedUnionLexemes) =
      some (s.supplied value).dedup := by
  have hfirst : inserted [(false, first.map value)] = {first.map value} := rfl
  rw [readRows_of_run value reference (run_aliasedUnionLexemes value hrows hs hcolumns) rfl,
    inserted_foldl_true _ (by rw [hfirst]; exact Multiset.nodup_singleton _), hfirst, supplied, hs,
    Multiset.add_comm]
  rfl

end Forms

/-- The rows that are inserted in each dialect. A single row is a list of values in all of them, and
has no equal one beside it. -/
theorem readRows_lexemes {d : Dialect} {s : Insert} (reference : String)
    (hcheck : s.checkRows = .ok ())
    (hkeys : s.rows.length ≠ 1 → d.multiRowForm = .aliasedUnion → s.columns ≠ []) :
    readRows value (s.lexemes d reference) =
      some (if d = .sqlite then (s.supplied value).dedup else s.supplied value) := by
  obtain ⟨first, rest, hs, hrows, hwidth⟩ := exists_rows_of_checkRows hcheck
  have hne : s.rows ≠ [] := by
    rw [hs]
    exact List.cons_ne_nil first rest
  have hvalues := readRows_valuesLexemes value hrows reference hne
  unfold lexemes
  split
  · next hone =>
    have hdedup := (nodup_supplied_of_length value hone).dedup
    rw [hvalues, hdedup, ite_self]
  · next hone =>
    have hsqlite := d.multiRowForm_eq_aliasedUnion_iff
    cases rest with
    | nil => exact absurd (by rw [hs]; rfl) hone
    | cons second rest =>
      cases hd : d.multiRowForm with
      | valuesList =>
        have hne : d ≠ .sqlite := fun h => nomatch hd.symm.trans (hsqlite.mpr h)
        rw [if_neg hne]
        exact hvalues
      | dualUnion =>
        have hne : d ≠ .sqlite := fun h => nomatch hd.symm.trans (hsqlite.mpr h)
        rw [if_neg hne]
        exact readRows_dualUnionLexemes value hrows reference hs
      | aliasedUnion =>
        rw [if_pos (hsqlite.mp hd)]
        exact readRows_aliasedUnionLexemes value hrows reference hs (hwidth (hkeys hone hd))

/-- **The rows of an insertion.** An insertion that is not refused inserts the rows that were
supplied, each as often as it was supplied, in every dialect but SQLite. There one copy of equal
rows is inserted, so all rows are inserted exactly if no two are equal. -/
theorem inserted_rows {d : Dialect} {n : TableNaming} {s : Insert} (hkeys : ∀ k ∈ s.keys, k ≠ "")
    (hrows : ∀ row ∈ s.rows, ∀ v ∈ row, v ≠ "") {text : String} (h : s.build d n = .ok text) :
    ∃ table, requireName .store .table s.table = .ok table ∧
      text = spelled Lexeme.text (s.lexemes d (n.reference table)) ∧
      ∀ {V : Type} [DecidableEq V] (value : String → V),
        readRows value (s.lexemes d (n.reference table)) =
            some (if d = .sqlite then (s.supplied value).dedup else s.supplied value) ∧
          (readRows value (s.lexemes d (n.reference table)) = some (s.supplied value) ↔
            d ≠ .sqlite ∨ (s.supplied value).Nodup) := by
  obtain ⟨table, htable, hcheck, hnamed, htext⟩ := exists_table_of_build h
  have hcolumns : ∀ k ∈ s.columns, k ≠ "" := fun k hk => hkeys k (List.mem_of_mem_filter hk)
  refine ⟨table, htable, htext.trans (spelled_lexemes _ hcolumns hrows).symm, ?_⟩
  intro V _ value
  have hread := readRows_lexemes value (n.reference table) hcheck hnamed
  refine ⟨hread, ?_⟩
  rw [hread]
  by_cases hd : d = .sqlite
  · rw [if_pos hd, Option.some.injEq, Multiset.dedup_eq_self, or_iff_right (not_not_intro hd)]
  · rw [if_neg hd]
    exact iff_of_true rfl (Or.inl hd)

/-- Equal rows in Oracle, and rows of which no two are equal in SQLite. -/
theorem inserted_rows_oracle_sqlite :
    let twice : Insert := { table := some "t", keys := ["k"], rows := [["1"], ["1"]] }
    let both : Insert := { table := some "t", keys := ["k"], rows := [["1"], ["2"]] }
    let n := TableNaming.placeholder (.standard .oracle)
    (∀ k ∈ twice.keys, k ≠ "") ∧ (∀ row ∈ twice.rows, ∀ v ∈ row, v ≠ "") ∧
      (∀ k ∈ both.keys, k ≠ "") ∧ (∀ row ∈ both.rows, ∀ v ∈ row, v ≠ "") ∧
      readRows id (twice.lexemes .oracle (n.reference "t")) = some {["1"], ["1"]} ∧
      readRows id (both.lexemes .sqlite (n.reference "t")) = some {["1"], ["2"]} := by
  intro twice both n
  have hkeys : ∀ k ∈ twice.keys, k ≠ "" := by decide
  have hrows : ∀ row ∈ twice.rows, ∀ v ∈ row, v ≠ "" := by decide
  have hkeys' : ∀ k ∈ both.keys, k ≠ "" := by decide
  have hrows' : ∀ row ∈ both.rows, ∀ v ∈ row, v ≠ "" := by decide
  have hbuild : twice.build .oracle n = .ok (twice.text .oracle (n.reference "t")) := rfl
  have hbuild' : both.build .sqlite n = .ok (both.text .sqlite (n.reference "t")) := rfl
  have hname : requireName .store .table (some "t") = .ok "t" := rfl
  have hsupplied : twice.supplied id = {["1"], ["1"]} := rfl
  have hsupplied' : both.supplied id = {["1"], ["2"]} := rfl
  obtain ⟨table, htable, -, hread⟩ := inserted_rows hkeys hrows hbuild
  obtain ⟨table', htable', -, hread'⟩ := inserted_rows hkeys' hrows' hbuild'
  obtain rfl : table = "t" := Except.ok.inj (htable.symm.trans hname)
  obtain rfl : table' = "t" := Except.ok.inj (htable'.symm.trans hname)
  refine ⟨hkeys, hrows, hkeys', hrows', ?_, ?_⟩
  · rw [(hread id).2.mpr (Or.inl (by decide)), hsupplied]
  · rw [(hread' id).2.mpr (Or.inr (by decide)), hsupplied']

/-- Equal rows in SQLite are inserted once. -/
theorem inserted_rows_sqlite_ne_supplied :
    let s : Insert := { table := some "t", keys := ["k"], rows := [["1"], ["1"]] }
    let n := TableNaming.placeholder (.standard .sqlite)
    (∀ k ∈ s.keys, k ≠ "*" ∧ k ≠ "") ∧ (∀ row ∈ s.rows, ∀ v ∈ row, v ≠ "") ∧
      s.build .sqlite n = .ok "INSERT INTO *_DBPREFIX_*t SELECT 1 AS k UNION SELECT 1" ∧
      spelled Lexeme.text (s.lexemes .sqlite (n.reference "t")) =
        "INSERT INTO *_DBPREFIX_*t SELECT 1 AS k UNION SELECT 1" ∧
      readRows id (s.lexemes .sqlite (n.reference "t")) = some {["1"]} ∧
      readRows id (s.lexemes .sqlite (n.reference "t")) ≠ some (s.supplied id) := by
  intro s n
  have hread : readRows id (s.lexemes .sqlite (n.reference "t")) = some {["1"]} := by decide
  have htext : spelled Lexeme.text (s.lexemes .sqlite (n.reference "t")) =
      "INSERT INTO *_DBPREFIX_*t SELECT 1 AS k UNION SELECT 1" := by decide
  refine ⟨by decide, by decide, rfl, htext, hread, ?_⟩
  rw [hread]
  decide

end Insert

end DialectSql
