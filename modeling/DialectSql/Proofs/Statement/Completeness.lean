import DialectSql.Proofs.Rendering
import DialectSql.Proofs.Statement.InsertedRows

/-!
# Statements with nothing left out

`listed` leaves out the items of a list that are empty, and `clause` leaves out a clause whose body
is empty. `Statement.buildInFull` does neither: it puts all items of a list between the separators
and writes a clause for whatever is there.

The main statement `buildNaming_eq_buildInFull` says that a statement is built in full if none of
the texts that have been written for it is empty (`Statement.pieces`). What is written only when the
statement is built is never empty: a value under the name of its key, the assignment of a value to a
key, the definition of a column.
-/

set_option autoImplicit false

namespace DialectSql

open Text

/-! ## Lists and clauses -/

/-- The clause of a list of items, unless there is no item. -/
def clauseOfAll (keyword separator : String) (items : List String) : String :=
  if items = [] then "" else " " ++ keyword ++ " " ++ separator.intercalate items

/-- A clause of items that are not empty is left out only if there is no item. -/
theorem clause_eq_clauseOfAll (keyword separator : String) {items : List String}
    (h : ∀ s ∈ items, s ≠ "") :
    clause keyword (separator.intercalate items) = clauseOfAll keyword separator items := by
  by_cases hne : items = []
  · subst hne
    rfl
  · rw [clause_of_ne_empty (intercalate_ne_empty separator hne h), clauseOfAll, if_neg hne]

/-- A clause of a body that is not empty is left out only if there is no body. -/
theorem optionalClause_eq_clauseOfAll (keyword : String) {body : Option String}
    (h : ∀ s ∈ body.toList, s ≠ "") :
    optionalClause keyword body = clauseOfAll keyword "" body.toList := by
  rw [← clause_eq_clauseOfAll keyword "" h]
  cases body with
  | none => rfl
  | some body => exact congrArg (clause keyword) (String.intercalate_singleton).symm

/-- What stands on both sides of a separator is not empty. -/
theorem zipWith_ne_empty {separator : String} (hseparator : separator ≠ "")
    (lefts rights : List String) :
    ∀ t ∈ lefts.zipWith (fun l r => l ++ separator ++ r) rights, t ≠ "" := by
  intro t ht
  obtain ⟨i, hi, rfl⟩ := List.mem_iff_getElem.mp ht
  rw [List.getElem_zipWith]
  simp [String.append_eq_empty_iff, hseparator]

/-! ## Statements written in full -/

namespace Select

/-- The joins and all shared columns or, if there are none, the condition on which they are made. -/
def fullJoinText (n : TableNaming) (s : Select) : String :=
  if s.joins = [] then ""
  else
    String.join (s.joins.map (Join.text n)) ++
      (if s.usingColumns = [] then clauseOfAll "ON" "" s.joinCondition.toList
        else " USING (" ++ ",".intercalate s.usingColumns ++ ")")

/-- A selection with all of its items and a clause for whatever is there. -/
def fullText (d : Dialect) (n : TableNaming) (s : Select) (table : String) : String :=
  "SELECT" ++ (if s.distinct then " DISTINCT" else "") ++ " " ++ ",".intercalate s.keys ++
    " FROM " ++ n.reference table ++ s.fullJoinText n ++
    clauseOfAll "WHERE" "" s.condition.toList ++ clauseOfAll "GROUP BY" "," s.groupBy ++
    clauseOfAll "HAVING" " AND " s.having ++ clauseOfAll "ORDER BY" ", " s.orderBy ++
    limitClause d s.limit s.offset (!s.orderBy.isEmpty)

/-- The texts that have been written for a selection. -/
def pieces (s : Select) : List String :=
  s.keys ++ s.usingColumns ++ s.joinCondition.toList ++ s.condition.toList ++ s.groupBy ++
    s.having ++ s.orderBy

/-- A selection without empty pieces is written in full. -/
theorem text_eq_fullText {s : Select} (h : ∀ t ∈ s.pieces, t ≠ "") (d : Dialect) (n : TableNaming)
    (table : String) : s.text d n table = s.fullText d n table := by
  simp only [pieces, List.forall_mem_append] at h
  obtain ⟨⟨⟨⟨⟨⟨hkeys, husing⟩, hjoin⟩, hcondition⟩, hgroupBy⟩, hhaving⟩, horderBy⟩ := h
  have hjoinText : s.joinText n = s.fullJoinText n := by
    unfold joinText fullJoinText
    rw [optionalClause_eq_clauseOfAll "ON" hjoin, listed_eq_intercalate husing]
  unfold text fullText
  rw [hjoinText, listed_eq_intercalate hkeys,
    optionalClause_eq_clauseOfAll _ hcondition, clause_eq_clauseOfAll _ _ hgroupBy,
    clause_eq_clauseOfAll _ _ hhaving, clause_eq_clauseOfAll _ _ horderBy]

/-- A selection is built with its full text. -/
def buildInFull (d : Dialect) (n : TableNaming) (s : Select) : Except Error String := do
  let table ← requireName .get .table s.table
  if s.keys = [] then throw (.missing .get .keys)
  return s.fullText d n table

/-- Building a selection without empty pieces leaves nothing out. -/
theorem build_eq_buildInFull {s : Select} (h : ∀ t ∈ s.pieces, t ≠ "") (d : Dialect)
    (n : TableNaming) : s.build d n = s.buildInFull d n := by
  unfold build buildInFull
  simp only [text_eq_fullText h]

end Select

namespace Insert

/-- The words up to the table and all columns, if there are some. -/
def fullHead (reference : String) (s : Insert) : String :=
  "INSERT INTO " ++ reference ++
    (if s.columns = [] then "" else " (" ++ ",".intercalate s.columns ++ ")")

/-- All values of all rows as a list of values. -/
def fullValuesText (reference : String) (s : Insert) : String :=
  s.fullHead reference ++ " VALUES " ++
    ", ".intercalate (s.rows.map fun row => "(" ++ ",".intercalate row ++ ")")

/-- All values of all rows in the form that the dialect has for as many rows. -/
def fullText (d : Dialect) (reference : String) (s : Insert) : String :=
  if s.rows.length = 1 then s.fullValuesText reference
  else
    match d.multiRowForm with
    | .valuesList => s.fullValuesText reference
    | .dualUnion =>
        s.fullHead reference ++ " " ++
          " UNION ALL ".intercalate
            (s.rows.map fun row => "SELECT " ++ ",".intercalate row ++ " FROM DUAL")
    | .aliasedUnion =>
        "INSERT INTO " ++ reference ++ " " ++
          " UNION ".intercalate
            (s.selections.map fun items => "SELECT " ++ ", ".intercalate items)

/-- The texts that have been written for an insertion. -/
def pieces (s : Insert) : List String := s.keys ++ s.rows.flatten

/-- The lists of items that are written for an insertion: the columns and the rows, or in a union of
selections the rows alone, of which the first one has the columns beside its values. -/
def writtenLists (d : Dialect) (s : Insert) : List (List String) :=
  if s.rows.length ≠ 1 ∧ d.multiRowForm = .aliasedUnion then s.selections
  else s.columns :: s.rows

/-- What stands between the items of the lists that are written. -/
def separator (d : Dialect) (s : Insert) : String :=
  if s.rows.length ≠ 1 ∧ d.multiRowForm = .aliasedUnion then ", " else ","

/-- The forms in which the columns stand in front of the rows. -/
theorem writtenLists_of_columns {d : Dialect} {s : Insert}
    (h : s.rows.length = 1 ∨ d.multiRowForm ≠ .aliasedUnion) :
    s.writtenLists d = s.columns :: s.rows ∧ s.separator d = "," := by
  have hform : ¬ (s.rows.length ≠ 1 ∧ d.multiRowForm = .aliasedUnion) := by
    rintro ⟨hseveral, hunion⟩
    exact h.elim hseveral (· hunion)
  exact ⟨if_neg hform, if_neg hform⟩

/-- In a union with aliases the lists that are written are its selections. -/
theorem writtenLists_of_union {d : Dialect} {s : Insert} (hseveral : s.rows.length ≠ 1)
    (hunion : d.multiRowForm = .aliasedUnion) :
    s.writtenLists d = s.selections ∧ s.separator d = ", " :=
  ⟨if_pos ⟨hseveral, hunion⟩, if_pos ⟨hseveral, hunion⟩⟩

/-- A value under a name is not empty, whatever the two are. -/
theorem selections_ne_empty {s : Insert} (h : ∀ row ∈ s.rows, ∀ v ∈ row, v ≠ "") :
    ∀ items ∈ s.selections, ∀ t ∈ items, t ≠ "" := by
  unfold selections
  split
  · simp
  · next first rest hs =>
    rw [hs] at h
    exact List.forall_mem_cons.mpr ⟨zipWith_ne_empty (by decide) first s.columns,
      fun row hrow => h row (List.mem_cons_of_mem _ hrow)⟩

section Listed

variable {s : Insert} (reference : String)

theorem head_eq_fullHead (h : listed "," s.columns = ",".intercalate s.columns) :
    s.head reference = s.fullHead reference := by
  unfold head fullHead
  rw [h]

theorem valuesText_eq_fullValuesText
    (h : ∀ items ∈ s.columns :: s.rows, listed "," items = ",".intercalate items) :
    s.valuesText reference = s.fullValuesText reference := by
  obtain ⟨hcolumns, hrows⟩ := List.forall_mem_cons.mp h
  unfold valuesText fullValuesText
  rw [head_eq_fullHead reference hcolumns,
    List.map_congr_left fun row hrow => by rw [hrows row hrow]]

/-- The text is the full one if no list that is written has an item left out. -/
theorem text_eq_fullText_of_listed {d : Dialect}
    (h : ∀ items ∈ s.writtenLists d,
      listed (s.separator d) items = (s.separator d).intercalate items) :
    s.text d reference = s.fullText d reference := by
  unfold text fullText
  split
  · next hone =>
    obtain ⟨hlists, hseparator⟩ := writtenLists_of_columns (d := d) (Or.inl hone)
    rw [hlists, hseparator] at h
    exact valuesText_eq_fullValuesText reference h
  · next hseveral =>
    cases hd : d.multiRowForm with
    | valuesList =>
      obtain ⟨hlists, hseparator⟩ :=
        writtenLists_of_columns (d := d) (s := s) (Or.inr (by simp [hd]))
      rw [hlists, hseparator] at h
      exact valuesText_eq_fullValuesText reference h
    | dualUnion =>
      obtain ⟨hlists, hseparator⟩ :=
        writtenLists_of_columns (d := d) (s := s) (Or.inr (by simp [hd]))
      rw [hlists, hseparator] at h
      obtain ⟨hcolumns, hrows⟩ := List.forall_mem_cons.mp h
      show s.dualUnionText reference = _
      unfold dualUnionText
      rw [head_eq_fullHead reference hcolumns,
        List.map_congr_left fun row hrow => by rw [hrows row hrow]]
    | aliasedUnion =>
      obtain ⟨hlists, hseparator⟩ := writtenLists_of_union hseveral hd
      rw [hlists, hseparator] at h
      show s.aliasedUnionText reference = "INSERT INTO " ++ reference ++ " " ++ _
      rw [aliasedUnionText_eq, ← String.append_assoc,
        List.map_congr_left fun items hitems => by rw [h items hitems]]

end Listed

/-- An insertion without empty pieces is written in full, in each of the three forms. -/
theorem text_eq_fullText {s : Insert} (h : ∀ t ∈ s.pieces, t ≠ "") (d : Dialect)
    (reference : String) : s.text d reference = s.fullText d reference := by
  obtain ⟨hkeys, hvalues⟩ := List.forall_mem_append.mp h
  have hrows : ∀ row ∈ s.rows, ∀ v ∈ row, v ≠ "" := fun row hrow v hv =>
    hvalues v (List.mem_flatten.mpr ⟨row, hrow, hv⟩)
  have hcolumns : ∀ k ∈ s.columns, k ≠ "" := fun k hk => hkeys k (List.mem_of_mem_filter hk)
  have hlists : ∀ items ∈ s.writtenLists d, ∀ t ∈ items, t ≠ "" := by
    unfold writtenLists
    split
    · exact selections_ne_empty hrows
    · exact List.forall_mem_cons.mpr ⟨hcolumns, hrows⟩
  exact text_eq_fullText_of_listed reference fun items hitems =>
    listed_eq_intercalate (hlists items hitems)

/-- An insertion is built with its full text. -/
def buildInFull (d : Dialect) (n : TableNaming) (s : Insert) : Except Error String := do
  let table ← requireName .store .table s.table
  s.checkRows
  if s.rows.length ≠ 1 ∧ d.multiRowForm = .aliasedUnion ∧ s.columns = [] then
    throw (.missing .store .keys)
  return s.fullText d (n.reference table)

theorem build_eq_buildInFull {s : Insert} (h : ∀ t ∈ s.pieces, t ≠ "") (d : Dialect)
    (n : TableNaming) : s.build d n = s.buildInFull d n := by
  unfold build buildInFull
  simp only [← text_eq_fullText h]
  congr 1
  funext table
  congr 1
  funext _
  unfold text
  by_cases hone : s.rows.length = 1
  · simp [hone]
  · cases d.multiRowForm with
    | valuesList => simp [hone]
    | dualUnion => simp [hone]
    | aliasedUnion => by_cases hcolumns : s.columns = [] <;> simp [hone, hcolumns]

end Insert

namespace Update

/-- All assignments, and a clause for the condition if there is one. -/
def fullText (n : TableNaming) (s : Update) (table : String) (row : List String) : String :=
  "UPDATE " ++ n.reference table ++
    clauseOfAll "SET" "," (s.keys.zipWith (fun k v => k ++ "=" ++ v) row) ++
    clauseOfAll "WHERE" "" s.condition.toList

/-- The texts that have been written for an update. -/
def pieces (s : Update) : List String := s.keys ++ s.rows.flatten ++ s.condition.toList

/-- An update is built with its full text. -/
def buildInFull (n : TableNaming) (s : Update) : Except Error String := do
  let table ← requireName .update .table s.table
  let row ← s.row
  return s.fullText n table row

theorem build_eq_buildInFull {s : Update} (h : ∀ t ∈ s.pieces, t ≠ "") (n : TableNaming) :
    s.build n = s.buildInFull n := by
  have htext (table : String) (row : List String) :
      s.text n table row = s.fullText n table row := by
    unfold text fullText
    rw [clause_eq_clauseOfAll _ _ (zipWith_ne_empty (by decide) s.keys row),
      optionalClause_eq_clauseOfAll _ (List.forall_mem_append.mp h).2]
  unfold build buildInFull
  simp only [htext]

end Update

namespace Delete

/-- The texts that have been written for a deletion. -/
def pieces (s : Delete) : List String := s.condition.toList

/-- A deletion is built with a clause for the condition if there is one. -/
def buildInFull (n : TableNaming) (s : Delete) : Except Error String := do
  let table ← requireName .delete .table s.table
  return "DELETE FROM " ++ n.reference table ++ clauseOfAll "WHERE" "" s.condition.toList

/-- A deletion is written in full if its condition is not empty. -/
theorem build_eq_buildInFull {s : Delete} (h : ∀ t ∈ s.pieces, t ≠ "") (n : TableNaming) :
    s.build n = s.buildInFull n := by
  unfold build buildInFull
  simp only [optionalClause_eq_clauseOfAll "WHERE" h]

end Delete

/-- The definition of a column has a space between its name and its type. -/
theorem Column.render_ne_empty {st : Style} {col : Column} {text : String}
    (h : col.render st = .ok text) : text ≠ "" := by
  obtain ⟨⟨⟩, -, hrest⟩ := exists_of_bind_eq_ok h
  obtain ⟨defaultValue, -, htext⟩ := exists_of_map_eq_ok hrest
  rw [← htext]
  simp [String.append_eq_empty_iff]

namespace CreateTable

/-- A new table is built with all of its columns and a clause for the engine if there is one. -/
def buildInFull (st : Style) (n : TableNaming) (s : CreateTable) : Except Error String := do
  let name ← requireName .create .name s.name
  if s.columns = [] then throw (.missing .create .columns)
  let definitions ← s.columns.mapM (Column.render st)
  return "CREATE TABLE" ++
    (if s.ifNotExists && st.dialect.createsIfNotExists then " IF NOT EXISTS" else "") ++ " " ++
    n.reference name ++ " (" ++ ", ".intercalate definitions ++ ")" ++
    (if st.dialect.isMySQL then clauseOfAll "ENGINE" "" (s.engine.bind nonblank?).toList else "")

/-- The definition of a column is never empty, so the creation of a table leaves none out. -/
theorem build_eq_buildInFull (st : Style) (n : TableNaming) (s : CreateTable) :
    s.build st n = s.buildInFull st n := by
  have hengine : s.engineClause st.dialect =
      if st.dialect.isMySQL then clauseOfAll "ENGINE" "" (s.engine.bind nonblank?).toList
      else "" := by
    unfold engineClause
    rw [optionalClause_eq_clauseOfAll]
    intro t ht
    obtain ⟨engine, -, hengine⟩ := Option.bind_eq_some_iff.mp (Option.mem_toList.mp ht)
    exact (nonblank?_eq_some_iff.mp hengine).2
  unfold build buildInFull
  rw [hengine]
  cases requireName .create .name s.name with
  | error e => rfl
  | ok name =>
    by_cases hcolumns : s.columns = []
    · simp only [if_pos hcolumns]
      rfl
    · cases hdefinitions : s.columns.mapM (Column.render st) with
      | error e => simp only [if_neg hcolumns]; rfl
      | ok definitions =>
        have hne : ∀ t ∈ definitions, t ≠ "" := by
          intro t ht
          obtain ⟨col, -, hcol⟩ := exists_of_mem_mapM hdefinitions ht
          exact Column.render_ne_empty hcol
        simp only [if_neg hcolumns, ok_bind, listed_eq_intercalate hne]

end CreateTable

/-! ## All statements -/

namespace Statement

/-- The texts that have been written for a statement. -/
def pieces : Statement → List String
  | select s => s.pieces
  | insert s => s.pieces
  | update s => s.pieces
  | delete s => s.pieces
  | truncate _ | create _ | drop _ => []

/-- The full text of a statement in which tables are named in the given way. -/
def buildInFull (st : Style) (n : TableNaming) : Statement → Except Error String
  | select s => s.buildInFull st.dialect n
  | insert s => s.buildInFull st.dialect n
  | update s => s.buildInFull n
  | delete s => s.buildInFull n
  | truncate s => s.build st.dialect n
  | create s => s.buildInFull st n
  | drop s => s.build st.dialect n

/-- **Nothing is left out.** A statement is built in full if none of the texts that have been
written for it is empty. -/
theorem buildNaming_eq_buildInFull {s : Statement} (h : ∀ t ∈ s.pieces, t ≠ "") (st : Style)
    (n : TableNaming) : s.buildNaming st n = s.buildInFull st n := by
  cases s with
  | select s => exact Select.build_eq_buildInFull h st.dialect n
  | insert s => exact Insert.build_eq_buildInFull h st.dialect n
  | update s => exact Update.build_eq_buildInFull h n
  | delete s => exact Delete.build_eq_buildInFull h n
  | truncate s => rfl
  | create s => exact CreateTable.build_eq_buildInFull st n s
  | drop s => rfl

end Statement

end DialectSql
