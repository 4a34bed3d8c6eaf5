import DialectSql.Proofs.Query.Restriction
import DialectSql.Proofs.Statement.Border

/-!
# The prefix in the names of a statement

The prefix is put into the finished text of a statement. If none of the texts that the caller gave
has the placeholder in it, this does the same as writing the prefix into the names when the
statement is built. A statement is read as texts without the placeholder, `Unmarked`, with names
between them; every keyword starts and ends with a character that the placeholder does not have, so
the names are substituted one by one (`replace_named`). For each of the seven statements there is
one lemma, `map_replace_build`, which goes through its text in the order in which it is written.
-/

set_option autoImplicit false

namespace DialectSql

open Text

/-! ## Names -/

/-- The substitution of the prefix makes the names of the second naming of those of the first. -/
structure TableNaming.Renamed (new : String) (n n' : TableNaming) : Prop where
  reference : ∀ {table : String}, ¬ Occurs tablePlaceholder table →
    replace tablePlaceholder new (n.reference table) = n'.reference table
  literal : ∀ {table : String}, ¬ Occurs tablePlaceholder table →
    replace tablePlaceholder new (n.literal table) = n'.literal table

theorem standard_append (d : Dialect) (a b : String) :
    Escaper.standard d (a ++ b) = Escaper.standard d a ++ Escaper.standard d b := by
  simp [Escaper.standard]

/-- The escaper of a dialect leaves the placeholder as it is. -/
theorem standard_tablePlaceholder (d : Dialect) :
    Escaper.standard d tablePlaceholder = tablePlaceholder := by
  cases d <;> decide

/-- Escaping keeps the placeholder, so in a literal of a name it stands in front of the escaped
name. -/
theorem renamed_standard (d : Dialect) (new : String) :
    TableNaming.Renamed new (.placeholder (.standard d)) (.qualified (.standard d) new) where
  reference h := replace_tableReference d new h
  literal {table} h := by
    have hname : ¬ Occurs tablePlaceholder (Escaper.standard d (trim table)) := by
      rw [occurs_escaped]
      exact not_occurs_trim h
    have hassoc : "'" ++ (tablePlaceholder ++ Escaper.standard d (trim table)) ++ "'" =
        "'" ++ (tablePlaceholder ++ (Escaper.standard d (trim table) ++ "'")) := by
      simp only [String.append_assoc]
    show replace tablePlaceholder new
      ("'" ++ Escaper.standard d (tablePlaceholder ++ trim table) ++ "'") =
        "'" ++ new ++ Escaper.standard d (trim table) ++ "'"
    rw [standard_append, standard_tablePlaceholder, hassoc,
      replace_separator_append tablePlaceholder_ne_empty _ (by decide),
      replace_marker_append tablePlaceholder_ne_empty,
      replace_append_last tablePlaceholder_ne_empty _ (by decide),
      replace_of_not_occurs _ hname]
    simp only [String.append_assoc]

/-! ## Parts of the statements -/

/-- The text of an update, with all that stands behind the name as one text. -/
theorem Update.text_eq (n : TableNaming) (s : Update) (table : String) (row : List String) :
    s.text n table row = "UPDATE " ++ n.reference table ++
      (clause "SET" (",".intercalate (s.keys.zipWith (fun k v => k ++ "=" ++ v) row)) ++
        optionalClause "WHERE" s.condition) :=
  String.append_assoc

theorem mem_rows_of_row {s : Update} {row : List String} (h : s.row = .ok row) :
    row ∈ s.rows := by
  unfold Update.row at h
  split at h
  · cases h
  · split at h
    · cases h
    · split at h
      · cases h
        simp [*]
      · cases h
    · cases h

namespace Insert

theorem unmarked_columns {s : Insert} (hkeys : Unmarked s.keys) : Unmarked s.columns :=
  fun t ht => hkeys t (List.mem_of_mem_filter ht)

/-- The list of columns behind the table, if there is one. -/
def columnList (s : Insert) : String :=
  if s.columns = [] then "" else " (" ++ listed "," s.columns ++ ")"

/-- The list of the columns starts with a blank or is empty. -/
theorem trailing_columnList {s : Insert} (hcolumns : Unmarked s.columns) :
    Trailing s.columnList := by
  unfold columnList
  split
  · decide
  · exact trailing_enclosed (by decide) (not_occurs_listed words_comma hcolumns)

/-- The text of a list of values, with all that stands behind the name as one text. -/
theorem valuesText_eq (reference : String) (s : Insert) :
    s.valuesText reference = "INSERT INTO " ++ reference ++ (s.columnList ++ (" VALUES " ++
      ", ".intercalate (s.rows.map fun row => "(" ++ listed "," row ++ ")"))) := by
  unfold valuesText head columnList
  simp only [String.append_assoc]

theorem dualUnionText_eq (reference : String) (s : Insert) :
    s.dualUnionText reference = "INSERT INTO " ++ reference ++ (s.columnList ++ (" " ++
      " UNION ALL ".intercalate
        (s.rows.map fun row => "SELECT " ++ listed "," row ++ " FROM DUAL"))) := by
  unfold dualUnionText head columnList
  simp only [String.append_assoc]

/-- The items of the selections of a union; those of the first one name the columns. -/
def selections (s : Insert) : List (List String) :=
  match s.rows with
  | [] => []
  | first :: rest => first.zipWith (fun v k => v ++ " AS " ++ k) s.columns :: rest

theorem aliasedUnionText_eq (reference : String) (s : Insert) :
    s.aliasedUnionText reference = "INSERT INTO " ++ reference ++ (" " ++
      " UNION ".intercalate (s.selections.map fun items => "SELECT " ++ listed ", " items)) := by
  unfold aliasedUnionText
  rw [String.append_assoc]
  rfl

/-- Each item of a union with aliases is a value, or a value and a column with `AS` between them. -/
theorem unmarked_selections {s : Insert} (hcolumns : Unmarked s.columns)
    (hrows : ∀ row ∈ s.rows, Unmarked row) : ∀ items ∈ s.selections, Unmarked items := by
  unfold selections
  split
  · simp
  · next first rest hs =>
    rw [hs] at hrows
    have hfirst := hrows first List.mem_cons_self
    exact List.forall_mem_cons.mpr ⟨unmarked_joined (by decide) hfirst hcolumns,
      fun row hrow => hrows row (List.mem_cons_of_mem _ hrow)⟩

end Insert

/-- The texts of a join. -/
def Join.texts (j : Join) : List String := j.table :: j.label.toList

/-- The words in front of the name of a joined table. -/
def JoinType.words (t : JoinType) : String :=
  (if t = .plain then "" else " " ++ t.keyword) ++ " JOIN "

/-- The words of every type of join start and end with a blank. -/
theorem JoinType.isWords (t : JoinType) : Words t.words := by
  cases t <;> decide

/-- The alias behind the name of a joined table. -/
def Join.suffix (j : Join) : String :=
  match j.label with
  | some l => " AS " ++ l
  | none => ""

theorem Join.text_eq (n : TableNaming) (j : Join) :
    j.text n = j.type.words ++ n.reference j.table ++ j.suffix := rfl

/-- The label of a join starts with a blank, so it is apart from the name. -/
theorem Join.trailing_suffix {j : Join} (h : Unmarked j.texts) : Trailing j.suffix := by
  have hlabel := (unmarked_cons.mp h).2
  unfold suffix
  split
  · next l hl =>
    rw [hl] at hlabel
    exact trailing_words (by decide) (unmarked_cons.mp hlabel).1
  · decide

namespace Select

theorem startsApart_joins (n : TableNaming) (joins : List Join) :
    startsApart tablePlaceholder (String.join (joins.map (Join.text n))) = true := by
  cases joins with
  | nil => rfl
  | cons j joins =>
    have hwords := j.type.isWords
    rw [List.map_cons, String.join_cons, Join.text_eq, String.append_assoc, String.append_assoc]
    exact startsApart_append_of_ne_empty hwords.ne_empty hwords.trailing.startsApart _

/-- The condition on which the joins are made. -/
def joinLink (s : Select) : String :=
  if s.usingColumns = [] then optionalClause "ON" s.joinCondition
  else " USING (" ++ listed "," s.usingColumns ++ ")"

/-- The link of the joins starts with a blank, be it a condition or a list of shared columns. -/
theorem trailing_joinLink {s : Select}
    (hlink : Unmarked (if s.usingColumns = [] then s.joinCondition.toList else s.usingColumns)) :
    Trailing s.joinLink := by
  unfold joinLink
  split
  · next hs =>
    rw [if_pos hs] at hlink
    exact trailing_optionalClause (by decide) hlink
  · next hs =>
    rw [if_neg hs] at hlink
    exact trailing_enclosed (by decide) (not_occurs_listed words_comma hlink)

/-- All clauses behind the condition start with a blank. -/
theorem trailing_closing (d : Dialect) (s : Select) (hgroupBy : Unmarked s.groupBy)
    (hhaving : Unmarked s.having) (horderBy : Unmarked s.orderBy) : Trailing (s.closing d) := by
  have hgroups := trailing_clause (by decide : Words (" " ++ "GROUP BY" ++ " "))
    (not_occurs_intercalate words_comma hgroupBy)
  have hconditions := trailing_clause (by decide : Words (" " ++ "HAVING" ++ " "))
    (not_occurs_intercalate (by decide : Words " AND ") hhaving)
  have horder := trailing_clause (by decide : Words (" " ++ "ORDER BY" ++ " "))
    (not_occurs_intercalate words_spacedComma horderBy)
  exact trailing_append (trailing_append (trailing_append hgroups hconditions) horder)
    (trailing_limitClause _ _ _ _)

/-- The keys of a selection stand between `SELECT` and `FROM`, which ends apart. -/
theorem leading_keys (s : Select) (hkeys : Unmarked s.keys) :
    Leading ("SELECT" ++ (if s.distinct then " DISTINCT" else "") ++ " " ++ listed "," s.keys ++
      " FROM ") := by
  have hwords : Leading ("SELECT" ++ (if s.distinct then " DISTINCT" else "") ++ " ") := by
    cases s.distinct <;> decide
  exact leading_words (by decide) (hwords.append (not_occurs_listed words_comma hkeys))

/-- The joins of a selection are written one after the other, and the link behind them. -/
theorem joinText_eq (n : TableNaming) (s : Select) :
    s.joinText n = if s.joins = [] then "" else
      String.join (s.joins.map (Join.text n)) ++ s.joinLink := rfl

/-- The part between the name and the condition starts apart, with joins and without. -/
theorem startsApart_joinText (n : TableNaming) {s : Select}
    (hlink : s.joins ≠ [] → Trailing s.joinLink) :
    startsApart tablePlaceholder (s.joinText n) = true := by
  rw [joinText_eq]
  split
  · rfl
  · next hs => exact startsApart_append (startsApart_joins n s.joins) (hlink hs).startsApart

end Select

namespace Column

/-- The texts of a definition as they are written: the name and the parts in which a text of the
caller stands. -/
def texts (st : Style) (col : Column) : List String :=
  st.dialect.quoteIdentifier col.name ::
    (col.charsetPart st.dialect ++ col.collationPart st.dialect ++
      (col.defaultPart st).toOption.getD [])

theorem avoids_typeKeyword (d : Dialect) (t : ColumnType) :
    avoids tablePlaceholder (d.typeKeyword t) = true := by
  cases d <;> cases t <;> decide

/-- The type of a column is a keyword and numbers. -/
theorem avoids_typePart (d : Dialect) (col : Column) :
    avoids tablePlaceholder (col.typePart d) = true := by
  have hkeyword := avoids_typeKeyword d col.type
  unfold typePart
  split
  · split
    · simp +decide [avoids_append, avoids_repr, hkeyword]
    · exact hkeyword
  · exact hkeyword

/-- The parts that are made of words only. -/
theorem unmarked_words (d : Dialect) (col : Column) :
    Unmarked (col.unsignedPart d) ∧ Unmarked (col.zerofillPart d) ∧ Unmarked col.notNullPart ∧
      Unmarked (col.autoIncrementPart d) ∧ Unmarked col.uniquePart ∧
      Unmarked (col.primaryKeyPart d) := by
  refine ⟨?_, ?_, ?_, ?_, ?_, ?_⟩ <;> apply unmarked_of_avoids
  · unfold unsignedPart
    split <;> decide
  · unfold zerofillPart
    split <;> decide
  · unfold notNullPart
    split <;> decide
  · unfold autoIncrementPart
    cases col.autoIncrement <;> cases d <;> decide
  · unfold uniquePart
    split <;> decide
  · unfold primaryKeyPart
    cases col.primaryKey <;> cases col.autoIncrement <;> cases d <;> decide

/-- The rest of a definition is words and numbers, so it has a placeholder in it only if the caller
gave one. -/
theorem not_occurs_render {st : Style} {col : Column} {text : String}
    (h : col.render st = .ok text) (htexts : Unmarked (col.texts st)) :
    ¬ Occurs tablePlaceholder text := by
  obtain ⟨-, -, hrest⟩ := exists_of_bind_eq_ok h
  obtain ⟨value, hvalue, htext⟩ := exists_of_bind_eq_ok hrest
  cases htext
  obtain ⟨hunsigned, hzerofill, hnotNull, hcounted, hunique, hkey⟩ :=
    col.unmarked_words st.dialect
  simp only [texts, hvalue, unmarked_cons, unmarked_append] at htexts
  obtain ⟨hname, ⟨hcharset, hcollation⟩, hdefault⟩ := htexts
  have htype := not_occurs_of_avoids tablePlaceholder_ne_empty (col.avoids_typePart st.dialect)
  apply not_occurs_intercalate words_blank
  simp only [unmarked_append, unmarked_cons]
  exact ⟨⟨⟨⟨⟨⟨⟨⟨⟨⟨hname, htype, unmarked_nil⟩, hunsigned⟩, hzerofill⟩, hcharset⟩, hcollation⟩,
    hnotNull⟩, hdefault⟩, hcounted⟩, hunique⟩, hkey⟩

end Column

theorem CreateTable.trailing_engineClause {d : Dialect} {s : CreateTable}
    (hengine : d.isMySQL = true → Unmarked (s.engine.bind nonblank?).toList) :
    Trailing (s.engineClause d) := by
  unfold engineClause
  split
  · next hd => exact trailing_optionalClause (by decide) (hengine hd)
  · decide

/-! ## Statements -/

/-- What a computation over a list gives comes from one of its items. -/
theorem exists_of_mem_mapM {α β : Type} {f : α → Except Error β} {xs : List α} {ts : List β}
    (h : xs.mapM f = .ok ts) {t : β} (ht : t ∈ ts) :
    ∃ x ∈ xs, f x = .ok t := by
  induction xs generalizing ts with
  | nil =>
    cases h
    cases ht
  | cons x xs ih =>
    rw [List.mapM_cons] at h
    obtain ⟨first, hfirst, hrest⟩ := exists_of_bind_eq_ok h
    obtain ⟨rest, hrest', hts⟩ := exists_of_bind_eq_ok hrest
    cases hts
    rcases List.mem_cons.mp ht with rfl | ht
    · exact ⟨x, List.mem_cons_self, hfirst⟩
    · obtain ⟨y, hy, hfy⟩ := ih hrest' ht
      exact ⟨y, List.mem_cons_of_mem _ hy, hfy⟩

/-- To change the result of two steps it is enough to change the result of the second one. -/
theorem map_bind_congr {α : Type} {x : Except Error α} {f f' : α → Except Error String}
    {g : String → String} (h : ∀ a, x = .ok a → (f a).map g = f' a) :
    (x >>= f).map g = x >>= f' := by
  cases x with
  | error e => rfl
  | ok a => exact h a rfl

/-- The required name is the trimmed text of the caller, so it has no placeholder if that has
none. -/
theorem not_occurs_of_requireName {o : Operation} {r : Requirement} {name : Option String}
    (hname : Unmarked name.toList) {table : String} (h : requireName o r name = .ok table) :
    ¬ Occurs tablePlaceholder table := by
  unfold requireName at h
  split at h
  · next t ht =>
    cases h
    obtain ⟨given, rfl, hgiven⟩ := Option.bind_eq_some_iff.mp ht
    rw [← (nonblank?_eq_some_iff.mp hgiven).1]
    exact not_occurs_trim (hname given (by simp))
  · cases h

section Statements

variable {new : String} {n n' : TableNaming} (h : n.Renamed new n')
include h

/-- A name at the end of a text is substituted if what stands in front of it is apart from it. -/
theorem replace_named_last {a table : String} (ha : Leading a)
    (hname : ¬ Occurs tablePlaceholder table) :
    replace tablePlaceholder new (a ++ n.reference table) = a ++ n'.reference table := by
  rw [replace_append_of_apart tablePlaceholder_ne_empty new (Or.inl ha.endsApart),
    replace_of_not_occurs _ ha.unmarked, h.reference hname]

/-- The name alone is substituted in a text with one name. -/
theorem replace_named {a b table : String} (ha : Leading a) (hb : Trailing b)
    (hname : ¬ Occurs tablePlaceholder table) :
    replace tablePlaceholder new (a ++ n.reference table ++ b) = a ++ n'.reference table ++ b := by
  rw [replace_append_of_apart tablePlaceholder_ne_empty new (Or.inr hb.startsApart),
    replace_named_last h ha hname, replace_of_not_occurs _ hb.unmarked]

theorem Delete.map_replace_build (s : Delete) (htable : Unmarked s.table.toList)
    (hcondition : Unmarked s.condition.toList) :
    (s.build n).map (replace tablePlaceholder new) = s.build n' := by
  apply map_bind_congr
  intro table hname
  exact congrArg Except.ok (replace_named h (by decide)
    (trailing_optionalClause words_where hcondition) (not_occurs_of_requireName htable hname))

/-- An update is substituted in its name, since its row and its condition have no placeholder. -/
theorem Update.map_replace_build (s : Update) (htable : Unmarked s.table.toList)
    (hkeys : Unmarked s.keys) (hrows : Unmarked s.rows.flatten)
    (hcondition : Unmarked s.condition.toList) :
    (s.build n).map (replace tablePlaceholder new) = s.build n' := by
  apply map_bind_congr
  intro table hname
  apply map_bind_congr
  intro row hrow
  have hvalues : Unmarked row := List.forall_mem_flatten.mp hrows row (mem_rows_of_row hrow)
  have hset := trailing_clause (by decide : Words (" " ++ "SET" ++ " "))
    (not_occurs_intercalate words_comma (unmarked_joined (by decide : Words "=") hkeys hvalues))
  have hwhere := trailing_optionalClause words_where hcondition
  refine congrArg Except.ok ?_
  rw [text_eq, text_eq]
  exact replace_named h (by decide) (trailing_append hset hwhere)
    (not_occurs_of_requireName htable hname)

namespace Insert

/-- A list of values is substituted in the name of its table. -/
theorem replace_valuesText (s : Insert) {table : String} (hname : ¬ Occurs tablePlaceholder table)
    (hcolumns : Unmarked s.columns) (hrows : ∀ row ∈ s.rows, Unmarked row) :
    replace tablePlaceholder new (s.valuesText (n.reference table)) =
      s.valuesText (n'.reference table) := by
  have hrow : ∀ row ∈ s.rows, ¬ Occurs tablePlaceholder ("(" ++ listed "," row ++ ")") :=
    fun row hrow => not_occurs_parenthesized (not_occurs_listed words_comma (hrows row hrow))
  have hvalues := trailing_words (by decide : Words " VALUES ")
    (not_occurs_intercalate words_spacedComma (List.forall_mem_map.mpr hrow))
  rw [valuesText_eq, valuesText_eq]
  exact replace_named h (by decide) (trailing_append (trailing_columnList hcolumns) hvalues) hname

theorem replace_dualUnionText (s : Insert) {table : String}
    (hname : ¬ Occurs tablePlaceholder table) (hcolumns : Unmarked s.columns)
    (hrows : ∀ row ∈ s.rows, Unmarked row) :
    replace tablePlaceholder new (s.dualUnionText (n.reference table)) =
      s.dualUnionText (n'.reference table) := by
  have hrow : ∀ row ∈ s.rows,
      ¬ Occurs tablePlaceholder ("SELECT " ++ listed "," row ++ " FROM DUAL") :=
    fun row hrow => (by decide : Trailing " FROM DUAL").append ((by decide : Leading _).append
      (not_occurs_listed words_comma (hrows row hrow)))
  have hselections := trailing_words words_blank
    (not_occurs_intercalate (by decide : Words " UNION ALL ") (List.forall_mem_map.mpr hrow))
  rw [dualUnionText_eq, dualUnionText_eq]
  exact replace_named h (by decide) (trailing_append (trailing_columnList hcolumns) hselections)
    hname

theorem replace_aliasedUnionText (s : Insert) {table : String}
    (hname : ¬ Occurs tablePlaceholder table) (hcolumns : Unmarked s.columns)
    (hrows : ∀ row ∈ s.rows, Unmarked row) :
    replace tablePlaceholder new (s.aliasedUnionText (n.reference table)) =
      s.aliasedUnionText (n'.reference table) := by
  have hitems : ∀ items ∈ s.selections,
      ¬ Occurs tablePlaceholder ("SELECT " ++ listed ", " items) :=
    fun items hitems => (by decide : Leading _).append
      (not_occurs_listed words_spacedComma (unmarked_selections hcolumns hrows items hitems))
  have hselections := trailing_words words_blank
    (not_occurs_intercalate (by decide : Words " UNION ") (List.forall_mem_map.mpr hitems))
  rw [aliasedUnionText_eq, aliasedUnionText_eq]
  exact replace_named h (by decide) hselections hname

/-- An insertion is substituted in its name, in each of the three forms. -/
theorem map_replace_build (d : Dialect) (s : Insert) (htable : Unmarked s.table.toList)
    (hkeys : Unmarked s.keys) (hrows : Unmarked s.rows.flatten) :
    (s.build d n).map (replace tablePlaceholder new) = s.build d n' := by
  have hcolumns := unmarked_columns hkeys
  have hrows' := List.forall_mem_flatten.mp hrows
  apply map_bind_congr
  intro table hname
  apply map_bind_congr
  intro _ _
  have hname' := not_occurs_of_requireName htable hname
  have hvalues := s.replace_valuesText h hname' hcolumns hrows'
  -- A single row is a list of values in every dialect.
  split
  · exact congrArg Except.ok hvalues
  · cases d.multiRowForm with
    | valuesList => exact congrArg Except.ok hvalues
    | dualUnion => exact congrArg Except.ok (s.replace_dualUnionText h hname' hcolumns hrows')
    | aliasedUnion =>
      dsimp only
      split
      · rfl
      · exact congrArg Except.ok (s.replace_aliasedUnionText h hname' hcolumns hrows')

end Insert

namespace Select

/-- The joins are substituted in their names one by one, since no occurrence crosses from one join
into the next. -/
theorem replace_joins {joins : List Join} (hjoins : ∀ j ∈ joins, Unmarked j.texts) :
    replace tablePlaceholder new (String.join (joins.map (Join.text n))) =
      String.join (joins.map (Join.text n')) := by
  induction joins with
  | nil => exact replace_empty new
  | cons j joins ih =>
    have hj := hjoins j List.mem_cons_self
    rw [List.map_cons, List.map_cons, String.join_cons, String.join_cons,
      replace_append_of_apart tablePlaceholder_ne_empty new (Or.inr (startsApart_joins n joins)),
      ih fun k hk => hjoins k (List.mem_cons_of_mem _ hk), Join.text_eq, Join.text_eq,
      replace_named h j.type.isWords.leading (Join.trailing_suffix hj) (unmarked_cons.mp hj).1]

/-- The link of the joins has no placeholder, so only the joins are substituted. -/
theorem replace_joinText (s : Select) (hjoins : ∀ j ∈ s.joins, Unmarked j.texts)
    (hlink : s.joins ≠ [] → Trailing s.joinLink) :
    replace tablePlaceholder new (s.joinText n) = s.joinText n' := by
  rw [joinText_eq, joinText_eq]
  split
  · exact replace_empty new
  · next hs =>
    have hlink' := hlink hs
    rw [replace_append_of_apart tablePlaceholder_ne_empty new (Or.inr hlink'.startsApart),
      replace_joins h hjoins, replace_of_not_occurs _ hlink'.unmarked]

/-- A selection is substituted in its name and in the names of its joins. -/
theorem replace_opening (s : Select) {table : String} (hname : ¬ Occurs tablePlaceholder table)
    (hkeys : Unmarked s.keys) (hjoins : ∀ j ∈ s.joins, Unmarked j.texts)
    (hlink : s.joins ≠ [] → Trailing s.joinLink) :
    replace tablePlaceholder new (s.opening n table) = s.opening n' table := by
  have hfront := s.leading_keys hkeys
  unfold opening
  rw [replace_append_of_apart tablePlaceholder_ne_empty new
      (Or.inr (startsApart_joinText n hlink)), s.replace_joinText h hjoins hlink,
    replace_named_last h hfront hname]

/-- A selection is substituted in its opening, since all names stand in front of the condition. -/
theorem map_replace_build (d : Dialect) (s : Select) (htable : Unmarked s.table.toList)
    (hkeys : Unmarked s.keys) (hjoins : ∀ j ∈ s.joins, Unmarked j.texts)
    (hlink : s.joins ≠ [] →
      Unmarked (if s.usingColumns = [] then s.joinCondition.toList else s.usingColumns))
    (hcondition : Unmarked s.condition.toList) (hgroupBy : Unmarked s.groupBy)
    (hhaving : Unmarked s.having) (horderBy : Unmarked s.orderBy) :
    (s.build d n).map (replace tablePlaceholder new) = s.build d n' := by
  apply map_bind_congr
  intro table hname
  dsimp only
  split
  · rfl
  · refine congrArg Except.ok ?_
    have hwhere := trailing_optionalClause words_where hcondition
    have hclosing := s.trailing_closing d hgroupBy hhaving horderBy
    have hname' := not_occurs_of_requireName htable hname
    rw [text_eq_framed, text_eq_framed, framed, framed, String.append_assoc, String.append_assoc,
      replace_append_of_apart tablePlaceholder_ne_empty new
        (Or.inr (trailing_append hwhere hclosing).startsApart),
      s.replace_opening h hname' hkeys hjoins fun hs => trailing_joinLink (hlink hs),
      replace_of_not_occurs _ (trailing_append hwhere hclosing).unmarked]

end Select

/-- Emptying a table is substituted in its name; where there are two statements, the first has the
reference and the second the literal. -/
theorem Truncate.map_replace_build (d : Dialect) (s : Truncate)
    (htable : Unmarked s.table.toList) :
    (s.build d n).map (replace tablePlaceholder new) = s.build d n' := by
  apply map_bind_congr
  intro table hname
  have hname' := not_occurs_of_requireName htable hname
  cases d with
  | mysqli | mysqlPdo | oracle | sqlServer =>
    exact congrArg Except.ok (replace_named_last h (by decide) hname')
  | postgresql | db2 =>
    exact congrArg Except.ok (replace_named h (by decide) (by decide) hname')
  | sqlite =>
    refine congrArg Except.ok ?_
    rw [replace_append_separator tablePlaceholder_ne_empty _ (by decide),
      replace_named_last h (by decide) hname', h.literal hname']

/-- The creation of a table is substituted in its name, since neither the columns nor the engine
have a placeholder. -/
theorem CreateTable.map_replace_build (st : Style) (s : CreateTable)
    (hname : Unmarked s.name.toList)
    (hengine : st.dialect.isMySQL = true → Unmarked (s.engine.bind nonblank?).toList)
    (hcolumns : ∀ col ∈ s.columns, Unmarked (col.texts st)) :
    (s.build st n).map (replace tablePlaceholder new) = s.build st n' := by
  apply map_bind_congr
  intro name hname'
  dsimp only
  split
  · rfl
  · apply map_bind_congr
    intro definitions hdefinitions
    have hitems : Unmarked definitions := by
      intro text htext
      obtain ⟨col, hcol, hrender⟩ := exists_of_mem_mapM hdefinitions htext
      exact Column.not_occurs_render hrender (hcolumns col hcol)
    have hfront : Leading ("CREATE TABLE" ++
        (if s.ifNotExists && st.dialect.createsIfNotExists then " IF NOT EXISTS" else "") ++
          " ") := by
      split <;> decide
    have hlist := trailing_enclosed (by decide : Words " (")
      (not_occurs_listed words_spacedComma hitems)
    have htext := replace_named h hfront (trailing_append hlist (trailing_engineClause hengine))
      (not_occurs_of_requireName hname hname')
    refine congrArg Except.ok ?_
    -- The statement is written from the left; the lemma has all behind the name as one text.
    simpa only [String.append_assoc] using htext

theorem DropTable.map_replace_build (d : Dialect) (s : DropTable)
    (htable : Unmarked s.table.toList) :
    (s.build d n).map (replace tablePlaceholder new) = s.build d n' := by
  apply map_bind_congr
  intro table hname
  have hfront : Leading ("DROP TABLE" ++
      (if s.ifExists && d.dropsIfExists then " IF EXISTS" else "") ++ " ") := by
    split <;> decide
  exact congrArg Except.ok
    (replace_named_last h hfront (not_occurs_of_requireName htable hname))

end Statements

end DialectSql
