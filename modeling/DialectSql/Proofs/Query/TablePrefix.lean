import DialectSql.Proofs.Query.Outcome
import DialectSql.Proofs.Text.Substitution

/-!
# The prefix of the table names

The prefix is put into the finished text of a statement, and not only into the names of tables. This
module follows it through an insertion of one row and a deletion by one column. A reference to a
table gets the prefix (`replace_tableReference`), identifiers and keywords are not touched, and a
text literal is touched exactly if the text has the placeholder in it (`occurs_quote`).

The main statement `text_in_prefixed_statements` gives both statements for every prefix and all
texts, and says when the literals are those of the texts.
-/

set_option autoImplicit false

namespace DialectSql

open Text

/-! ## The placeholder in parts of a statement -/

theorem tablePlaceholder_ne_empty : tablePlaceholder ≠ "" := by decide

theorem not_mem_of_all {marker cs : List Char} (h : cs.all (!marker.contains ·) = true) :
    ∀ x ∈ cs, x ∉ marker := by
  simpa using h

/-- Escaping keeps the occurrences of the placeholder, which has no character that is escaped and
none that an escape is made of. -/
theorem occurs_escaped (d : Dialect) (s : String) :
    Occurs tablePlaceholder (Escaper.standard d s) ↔ Occurs tablePlaceholder s := by
  have hchar : ∀ c, Escaper.standardChar d c = [c] ∨
      c ∉ tablePlaceholder.toList ∧ Escaper.standardChar d c ≠ [] ∧
        ∀ x ∈ Escaper.standardChar d c, x ∉ tablePlaceholder.toList := by
    intro c
    rw [Escaper.standardChar]
    split
    · unfold Escaper.backslashed
      split
      case h_10 => exact Or.inl rfl
      all_goals exact Or.inr ⟨by decide, by decide, not_mem_of_all (by decide)⟩
    · rw [Escaper.doubled]
      split
      · next hc =>
        subst hc
        exact Or.inr ⟨by decide, by decide, not_mem_of_all (by decide)⟩
      · exact Or.inl rfl
  rw [Occurs, Escaper.standard, String.toList_ofList]
  exact infix_flatMap_iff (by decide) hchar s.toList

/-- A text literal has the placeholder in it exactly if the text has. -/
theorem occurs_quote (d : Dialect) (s : String) :
    Occurs tablePlaceholder ((Style.standard d).quote s) ↔ Occurs tablePlaceholder s := by
  rw [← occurs_escaped d s]
  exact occurs_delimited tablePlaceholder_ne_empty (by decide) _

/-- The components of a name with dots between them are the name. -/
theorem intercalate_components (name : String) :
    ".".intercalate (Dialect.components name) = name := by
  apply String.toList_injective
  rw [Dialect.components, String.toList_intercalate, List.map_map]
  simp [Function.comp_def, List.intercalate_splitOn]

/-- The wildcard is its own component and stays bare, so it needs no case of its own. -/
theorem Dialect.identifier_eq_quoteIdentifier (d : Dialect) (name : String) :
    d.identifier name = d.quoteIdentifier (trim name) := by
  rw [identifier]
  split
  · next hstar =>
    rw [hstar]
    cases d <;> decide
  · rfl

/-- A delimited component has no placeholder that the component does not have. -/
theorem occurs_of_occurs_delimit {component : String}
    (h : Occurs tablePlaceholder (Dialect.delimit component)) :
    Occurs tablePlaceholder component := by
  rw [Dialect.delimit] at h
  split at h
  · exact h
  · exact (occurs_delimited tablePlaceholder_ne_empty (by decide) component).mp h

/-- Quoting an identifier puts no placeholder into it. -/
theorem not_occurs_identifier (d : Dialect) {column : String}
    (h : ¬ Occurs tablePlaceholder column) : ¬ Occurs tablePlaceholder (d.identifier column) := by
  have htrim := not_occurs_trim h
  rw [Dialect.identifier_eq_quoteIdentifier, Dialect.quoteIdentifier]
  split
  · -- An occurrence reaches over neither a point nor a backtick, so it lies in one component.
    intro hoccurs
    rw [occurs_intercalate tablePlaceholder_ne_empty (by decide)] at hoccurs
    obtain ⟨item, hitem, hitem'⟩ := hoccurs
    obtain ⟨component, hcomponent, rfl⟩ := List.mem_map.mp hitem
    apply htrim
    rw [← intercalate_components (trim column),
      occurs_intercalate tablePlaceholder_ne_empty (by decide)]
    exact ⟨component, hcomponent, occurs_of_occurs_delimit hitem'⟩
  · exact htrim

/-! ## What the prefix is put into -/

/-- A reference to a table gets the prefix once. -/
theorem replace_tableReference (d : Dialect) (new : String) {table : String}
    (h : ¬ Occurs tablePlaceholder table) :
    replace tablePlaceholder new (d.tableReference tablePlaceholder table) =
      d.tableReference new table := by
  have hname : replace tablePlaceholder new (tablePlaceholder ++ trim table) =
      new ++ trim table := by
    rw [replace_marker_append tablePlaceholder_ne_empty,
      replace_of_not_occurs _ (not_occurs_trim h)]
  rw [Dialect.tableReference, Dialect.tableReference]
  split
  -- The backticks of MySQL stand around the whole name, so the placeholder is not at the start.
  · have hsep : separates tablePlaceholder "`" = true := by decide
    have hassoc : "`" ++ tablePlaceholder ++ trim table = "`" ++ (tablePlaceholder ++ trim table) :=
      String.append_assoc
    rw [replace_append_last tablePlaceholder_ne_empty _ hsep, hassoc,
      replace_separator_append tablePlaceholder_ne_empty _ hsep, hname, ← String.append_assoc]
  · exact hname

/-- The insertion of one row of literals into a table. -/
def insertion (d : Dialect) (qualifier table : String) (literals : List String) : String :=
  "INSERT INTO " ++ d.tableReference qualifier table ++ " VALUES (" ++
    ",".intercalate literals ++ ")"

/-- The deletion of the rows of a table in which a column equals a literal. -/
def deletion (d : Dialect) (qualifier table column literal : String) : String :=
  "DELETE FROM " ++ d.tableReference qualifier table ++ " WHERE " ++ d.identifier column ++ " = " ++
    literal

section

variable {d : Dialect} (new : String) {table : String} (htable : ¬ Occurs tablePlaceholder table)
include htable

/-- The prefix is put into the name of an insertion and into each of its literals. -/
theorem replace_insertion (literals : List String) :
    replace tablePlaceholder new (insertion d tablePlaceholder table literals) =
      insertion d new table (literals.map (replace tablePlaceholder new)) := by
  have hkeyword : avoids tablePlaceholder "INSERT INTO " = true := by decide
  unfold insertion
  rw [replace_append_last tablePlaceholder_ne_empty _ (by decide),
    replace_append_separator tablePlaceholder_ne_empty _ (by decide),
    replace_append_of_avoids tablePlaceholder_ne_empty _ hkeyword,
    replace_tableReference d new htable,
    replace_intercalate tablePlaceholder_ne_empty _ (by decide)]

/-- The prefix is put into the name of a deletion and into its literal. -/
theorem replace_deletion {column : String} (hcolumn : ¬ Occurs tablePlaceholder column)
    (literal : String) :
    replace tablePlaceholder new (deletion d tablePlaceholder table column literal) =
      deletion d new table column (replace tablePlaceholder new literal) := by
  have hkeyword : avoids tablePlaceholder "DELETE FROM " = true := by decide
  unfold deletion
  rw [replace_append_separator tablePlaceholder_ne_empty _ (by decide),
    replace_append_separator tablePlaceholder_ne_empty _ (by decide),
    replace_append_of_avoids tablePlaceholder_ne_empty _ hkeyword,
    replace_tableReference d new htable,
    replace_of_not_occurs _ (not_occurs_identifier d hcolumn)]

end

/-! ## When the literals are kept -/

/-- Two insertions into one table differ only in their literals. -/
theorem insertion_inj {d : Dialect} {qualifier table : String} {literals literals' : List String} :
    insertion d qualifier table literals = insertion d qualifier table literals' ↔
      ",".intercalate literals = ",".intercalate literals' := by
  unfold insertion
  rw [String.append_left_inj, String.append_right_inj]

theorem deletion_inj {d : Dialect} {qualifier table column literal literal' : String} :
    deletion d qualifier table column literal = deletion d qualifier table column literal' ↔
      literal = literal' := by
  unfold deletion
  rw [String.append_right_inj]

/-- The literals of an insertion are those of the texts exactly if no text has the placeholder in
it, or the prefix is the placeholder. -/
theorem insertion_prefixed_eq_iff (d : Dialect) (new table : String) (texts : List String) :
    insertion d new table
        ((texts.map (Style.standard d).quote).map (replace tablePlaceholder new)) =
      insertion d new table (texts.map (Style.standard d).quote) ↔
        (∀ s ∈ texts, ¬ Occurs tablePlaceholder s) ∨ new = tablePlaceholder := by
  -- The commas between the literals are kept, so the list is one text with the prefix put in.
  rw [insertion_inj, ← replace_intercalate tablePlaceholder_ne_empty _ (by decide),
    replace_eq_self_iff tablePlaceholder_ne_empty,
    occurs_intercalate tablePlaceholder_ne_empty (by decide)]
  simp [occurs_quote]

/-- A text keeps its place in a deletion exactly if it has no placeholder, or the prefix is the
placeholder itself. -/
theorem deletion_prefixed_eq_iff (d : Dialect) (new table column text : String) :
    deletion d new table column
        (replace tablePlaceholder new ((Style.standard d).quote text)) =
      deletion d new table column ((Style.standard d).quote text) ↔
        ¬ Occurs tablePlaceholder text ∨ new = tablePlaceholder := by
  rw [deletion_inj, replace_eq_self_iff tablePlaceholder_ne_empty, occurs_quote]

/-! ## Building the statements -/

theorem literals_map_text (st : Style) (texts : List String) :
    st.literals (texts.map .text) = .ok (texts.map st.quote) := by
  unfold Style.literals
  induction texts with
  | nil => rfl
  | cons text texts ih =>
    rw [List.map_cons, List.mapM_cons, ih]
    rfl

theorem quote_ne_empty (st : Style) (s : String) : st.quote s ≠ "" := by
  simp [Style.quote, String.append_eq_empty_iff]

theorem requireName_trim (o : Operation) (r : Requirement) {table : String}
    (h : trim table ≠ "") : requireName o r (some (trim table)) = .ok (trim table) := by
  have hname : nonblank? (trim table) = some (trim table) :=
    nonblank?_eq_some_iff.mpr ⟨trim_trim table, h⟩
  simp [requireName, hname]

theorem tableReference_trim (d : Dialect) (qualifier table : String) :
    d.tableReference qualifier (trim table) = d.tableReference qualifier table := by
  simp [Dialect.tableReference]

theorem identifier_trim (d : Dialect) (column : String) :
    d.identifier (trim column) = d.identifier column := by
  simp [Dialect.identifier]

/-- A condition that a column equals a text. -/
theorem exists_predicate_equal {column : String} (h : trim column ≠ "") (text : String) :
    ∃ c, Condition.ofText column "=" (.scalar (.text text)) = .ok c ∧
      ∀ st : Style, c.render st =
        .ok (st.dialect.identifier column ++ " = " ++ st.quote text) := by
  refine ⟨.leaf ⟨trim column, .compare .equal, .scalar (.text text), trim_trim column, h, rfl⟩,
    ?_, ?_⟩
  · have hmake : Predicate.make column (.compare .equal) (.scalar (.text text)) =
        .ok ⟨trim column, .compare .equal, .scalar (.text text), trim_trim column, h, rfl⟩ := by
      rw [Predicate.make, dif_neg h]
      rfl
    have hparse : Operator.parse "=" = .ok (.compare .equal) := rfl
    rw [Condition.ofText, hparse, ok_bind, hmake]
    rfl
  · intro st
    have hoperator (name : String) : name ++ " " ++ "=" ++ " " = name ++ " = " := by
      rw [String.append_assoc, String.append_assoc]
      rfl
    simp only [Condition.render, Predicate.render, Operand.render, Style.literal,
      Operator.keyword, Comparison.symbol, identifier_trim]
    exact congrArg (fun start => Except.ok (start ++ st.quote text)) (hoperator _)

theorem checkRows_single (table : Option String) {row : List String} (hrow : row ≠ []) :
    ({ table := table, rows := [row] } : Insert).checkRows = .ok () := by
  simp [Insert.checkRows, Insert.columns, hrow]

theorem valuesText_single (reference : String) (table : Option String) {row : List String}
    (hitems : ∀ s ∈ row, s ≠ "") :
    ({ table := table, rows := [row] } : Insert).valuesText reference =
      "INSERT INTO " ++ reference ++ " VALUES (" ++ ",".intercalate row ++ ")" := by
  have hopen (items : String) : " VALUES " ++ ("(" ++ items ++ ")") =
      " VALUES (" ++ (items ++ ")") := by
    rw [String.append_assoc, ← String.append_assoc]
    rfl
  simp only [Insert.valuesText, Insert.head, Insert.columns, List.filter_nil, if_true,
    String.append_empty, List.map_cons, List.map_nil, String.intercalate_singleton,
    listed_eq_intercalate hitems]
  rw [String.append_assoc, hopen, ← String.append_assoc, ← String.append_assoc]

namespace Query

/-- What is built is the template with the prefix put in. -/
theorem sql_of_template {q : Query} {o : Operation} {p : Parameters} {text : String}
    (h : q.template o p = .ok text) :
    q.sql o p = .ok (replace tablePlaceholder q.tablePrefix text) := by
  rw [sql, h]
  rfl

variable {q : Query} {table : String} (hname : trim table ≠ "")
  (htable : q.fragments.table = some (trim table))
include hname htable

/-- The template of an insertion of one row. -/
theorem template_store_row (hkeys : q.fragments.keys = []) {row : List String}
    (hrows : q.fragments.rows = [row]) (hrow : row ≠ []) (hitems : ∀ s ∈ row, s ≠ "")
    (p : Parameters) :
    q.template .store p = .ok (insertion q.dialect tablePlaceholder table row) := by
  show Insert.build q.dialect (.placeholder q.style)
    { table := q.fragments.table, keys := q.fragments.keys, rows := q.fragments.rows } = _
  rw [htable, hkeys, hrows, Insert.build, requireName_trim _ _ hname]
  show (Insert.checkRows { table := some (trim table), rows := [row] } >>= fun _ => _) = _
  rw [checkRows_single _ hrow]
  show Except.ok (Insert.valuesText (q.dialect.tableReference tablePlaceholder (trim table))
    { table := some (trim table), rows := [row] }) = _
  rw [valuesText_single _ _ hitems, tableReference_trim]
  rfl

theorem template_delete_where {c : Condition} (hc : q.fragments.condition = some c)
    {column literal : String}
    (hrender : c.render q.style = .ok (q.dialect.identifier column ++ " = " ++ literal))
    (p : Parameters) :
    q.template .delete p = .ok (deletion q.dialect tablePlaceholder table column literal) := by
  have hsql : q.conditionSql = .ok (some (q.dialect.identifier column ++ " = " ++ literal)) := by
    simp only [conditionSql, hc, hrender]
    rfl
  unfold template statement
  rw [hsql]
  show Delete.build (.placeholder q.style) { table := q.fragments.table, condition := some _ } = _
  rw [htable, Delete.build, requireName_trim _ _ hname]
  show Except.ok ("DELETE FROM " ++ q.dialect.tableReference tablePlaceholder (trim table) ++
    clause "WHERE" (q.dialect.identifier column ++ " = " ++ literal)) = _
  have hne : q.dialect.identifier column ++ " = " ++ literal ≠ "" := by
    simp [String.append_eq_empty_iff]
  have hkeyword : " " ++ "WHERE" ++ " " = " WHERE " := rfl
  rw [clause_of_ne_empty hne, hkeyword, tableReference_trim]
  unfold deletion
  rw [← String.append_assoc, ← String.append_assoc, ← String.append_assoc]

/-- The insertion of one row, with the prefix in all of its text. -/
theorem sql_store_row (hfree : ¬ Occurs tablePlaceholder table) (hkeys : q.fragments.keys = [])
    {row : List String} (hrows : q.fragments.rows = [row]) (hrow : row ≠ [])
    (hitems : ∀ s ∈ row, s ≠ "") (p : Parameters) :
    q.sql .store p = .ok (insertion q.dialect q.tablePrefix table
      (row.map (replace tablePlaceholder q.tablePrefix))) := by
  rw [sql_of_template (template_store_row hname htable hkeys hrows hrow hitems p),
    replace_insertion _ hfree]

/-- The deletion by one column, with the prefix in all of its text. -/
theorem sql_delete_where (hfree : ¬ Occurs tablePlaceholder table) {c : Condition}
    (hc : q.fragments.condition = some c) {column literal : String}
    (hcolumn : ¬ Occurs tablePlaceholder column)
    (hrender : c.render q.style = .ok (q.dialect.identifier column ++ " = " ++ literal))
    (p : Parameters) :
    q.sql .delete p = .ok (deletion q.dialect q.tablePrefix table column
      (replace tablePlaceholder q.tablePrefix literal)) := by
  rw [sql_of_template (template_delete_where hname htable hc hrender p),
    replace_deletion _ hfree hcolumn]

end Query

namespace Session

theorem perform_build_fst {s : Session} {o : Operation} {p : Parameters} {sql : String}
    (h : s.query.sql o p = .ok sql) : (s.perform (.build o p)).1 = .ok (some sql) := by
  rw [perform_build, h]

/-- A call with a table that is not blank sets the trimmed name. -/
theorem perform_table (s : Session) {table : String} (h : trim table ≠ "") :
    s.perform (.table table) =
      (.ok none, s.withEdit fun f => { f with table := some (trim table) }) := by
  have hname : nonblank? table = some (trim table) := nonblank?_eq_some_iff.mpr ⟨rfl, h⟩
  have hedit : Call.edit s.query.style (.table table) =
      some (.ok fun f => { f with table := some (trim table) }) := by
    simp only [Call.edit, hname]
  rw [perform_of_edit hedit]
  rfl

/-- A call with texts as values adds their quoted texts as a row. -/
theorem perform_values_text (s : Session) {texts : List String} (h : texts ≠ []) :
    s.perform (.values (texts.map .text)) =
      (.ok none, s.withEdit fun f =>
        { f with rows := f.rows ++ [texts.map s.query.style.quote] }) := by
  have hrow : texts.map Literal.text ≠ [] := by simpa using h
  have hedit : Call.edit s.query.style (.values (texts.map .text)) =
      some (.ok fun f => { f with rows := f.rows ++ [texts.map s.query.style.quote] }) := by
    simp only [Call.edit, if_neg hrow, literals_map_text]
    rfl
  rw [perform_of_edit hedit]
  rfl

/-- A call with an accepted condition attaches it to the one that there is. -/
theorem perform_restrict_ok (s : Session) {column operator : String} {operand : Operand}
    {c : Condition} (h : Condition.ofText column operator operand = .ok c) (a : Attachment) :
    s.perform (.restrict a column operator operand) =
      (.ok none, s.withEdit fun f => { f with condition := some (a.attach f.condition c) }) := by
  have hedit : Call.edit s.query.style (.restrict a column operator operand) =
      some (.ok fun f => { f with condition := some (a.attach f.condition c) }) := by
    simp only [Call.edit, h]
    rfl
  rw [perform_of_edit hedit]
  rfl

section

variable (s : Session) {table : String} (hname : trim table ≠ "")
  (hfree : ¬ Occurs tablePlaceholder table)
include hname hfree

/-- An insertion of one row of texts, for every prefix. -/
theorem perform_store_texts (hkeys : s.query.fragments.keys = [])
    (hrows : s.query.fragments.rows = []) {texts : List String} (htexts : texts ≠ []) :
    ((s.run [.table table, .values (texts.map .text)]).perform .store).1 =
      .ok (some (insertion s.query.dialect s.query.tablePrefix table
        ((texts.map s.query.style.quote).map
          (replace tablePlaceholder s.query.tablePrefix)))) := by
  have hrow : texts.map s.query.style.quote ≠ [] := by simpa using htexts
  have hitems : ∀ item ∈ texts.map s.query.style.quote, item ≠ "" := by
    intro item hitem
    obtain ⟨text, -, rfl⟩ := List.mem_map.mp hitem
    exact quote_ne_empty _ text
  have hrows' : s.query.fragments.rows ++ [texts.map s.query.style.quote] =
      [texts.map s.query.style.quote] := by
    rw [hrows, List.nil_append]
  rw [run_cons, run_cons, run_nil, perform_table s hname, perform_values_text _ htexts]
  apply perform_build_fst
  refine Query.sql_store_row hname ?_ hfree ?_ ?_ hrow hitems {}
  · rfl
  · exact hkeys
  · exact hrows'

/-- A deletion of the rows in which a column equals a text, for every prefix. -/
theorem perform_delete_text {column : String} (hcolumn : trim column ≠ "")
    (hfree' : ¬ Occurs tablePlaceholder column) (text : String) :
    ((s.run [.table table, .restrict .replace column "=" (.scalar (.text text))]).perform
        .delete).1 =
      .ok (some (deletion s.query.dialect s.query.tablePrefix table column
        (replace tablePlaceholder s.query.tablePrefix (s.query.style.quote text)))) := by
  obtain ⟨c, hc, hrender⟩ := exists_predicate_equal hcolumn text
  rw [run_cons, run_cons, run_nil, perform_table s hname, perform_restrict_ok _ hc]
  apply perform_build_fst
  refine Query.sql_delete_where hname ?_ hfree ?_ hfree' (hrender _) {}
  · rfl
  · rfl

end

/-- **Texts in prefixed statements.** In an insertion of one row of texts and in a deletion by one
column the prefix is put into the reference to the table and into the literals. With the standard
escaper the literals are those of the texts exactly if no text has the placeholder in it, or the
prefix is the placeholder. -/
theorem text_in_prefixed_statements (s : Session)
    (hstyle : s.query.style = .standard s.query.dialect) (table : String)
    (hname : trim table ≠ "") (hfree : ¬ Occurs tablePlaceholder table) :
    let d := s.query.dialect
    let new := s.query.tablePrefix
    let quote := s.query.style.quote
    let put := replace tablePlaceholder new
    (∀ texts, texts ≠ [] → s.query.fragments.keys = [] → s.query.fragments.rows = [] →
      ((s.run [.table table, .values (texts.map .text)]).perform .store).1 =
          .ok (some (insertion d new table ((texts.map quote).map put))) ∧
        (insertion d new table ((texts.map quote).map put) =
            insertion d new table (texts.map quote) ↔
          (∀ text ∈ texts, ¬ Occurs tablePlaceholder text) ∨ new = tablePlaceholder)) ∧
    (∀ column text, trim column ≠ "" → ¬ Occurs tablePlaceholder column →
      ((s.run [.table table, .restrict .replace column "=" (.scalar (.text text))]).perform
          .delete).1 = .ok (some (deletion d new table column (put (quote text)))) ∧
        (deletion d new table column (put (quote text)) =
            deletion d new table column (quote text) ↔
          ¬ Occurs tablePlaceholder text ∨ new = tablePlaceholder)) := by
  intro d new quote put
  have hquote : quote = (Style.standard d).quote := by rw [← hstyle]
  constructor
  · intro texts htexts hkeys hrows
    refine ⟨perform_store_texts s hname hfree hkeys hrows htexts, ?_⟩
    rw [hquote]
    exact insertion_prefixed_eq_iff d new table texts
  · intro column text hcolumn hfree'
    refine ⟨perform_delete_text s hname hfree hcolumn hfree' text, ?_⟩
    rw [hquote]
    exact deletion_prefixed_eq_iff d new table column text

/-- Texts with a quote and a backslash in them, but without the placeholder, are kept. -/
theorem text_in_prefixed_statements_mysql :
    let s : Session := { query := { Query.ofDialect .mysqli with tablePrefix := "p_" } }
    let quote := s.query.style.quote
    s.query.style = .standard s.query.dialect ∧ trim "t" ≠ "" ∧ ¬ Occurs tablePlaceholder "t" ∧
      ((s.run [.table "t", .values (["it's", "*\\"].map .text)]).perform .store).1 =
        .ok (some (insertion .mysqli "p_" "t" (["it's", "*\\"].map quote))) ∧
      ((s.run [.table "t", .restrict .replace "id" "=" (.scalar (.text "it's"))]).perform
          .delete).1 = .ok (some (deletion .mysqli "p_" "t" "id" (quote "it's"))) := by
  intro s quote
  have hname : trim "t" ≠ "" := by decide
  have hfree : ¬ Occurs tablePlaceholder "t" := by decide
  obtain ⟨hstore, hdelete⟩ := text_in_prefixed_statements s rfl "t" hname hfree
  refine ⟨rfl, hname, hfree, ?_, ?_⟩
  · obtain ⟨hsql, hkept⟩ := hstore ["it's", "*\\"] (by decide) rfl rfl
    rw [hsql, hkept.mpr (Or.inl (by decide))]
    rfl
  · obtain ⟨hsql, hkept⟩ := hdelete "id" "it's" (by decide) (by decide)
    rw [hsql, hkept.mpr (Or.inl (by decide))]
    rfl

/-- A text with the placeholder in it is not kept. -/
theorem store_of_placeholder :
    let s : Session := { query := { Query.ofDialect .postgresql with tablePrefix := "p_" } }
    let answer := ((s.run [.table "t", .values [.text "*_DBPREFIX_*"]]).perform .store).1
    let kept := insertion .postgresql "p_" "t" [s.query.style.quote "*_DBPREFIX_*"]
    trim "t" ≠ "" ∧ ¬ Occurs tablePlaceholder "t" ∧
      answer = .ok (some "INSERT INTO p_t VALUES ('p_')") ∧
      kept = "INSERT INTO p_t VALUES ('*_DBPREFIX_*')" ∧ answer ≠ .ok (some kept) := by
  intro s answer kept
  have hname : trim "t" ≠ "" := by decide
  have hfree : ¬ Occurs tablePlaceholder "t" := by decide
  have hanswer : answer = .ok (some "INSERT INTO p_t VALUES ('p_')") := by decide
  have hkept : kept = "INSERT INTO p_t VALUES ('*_DBPREFIX_*')" := by rfl
  have hne : answer ≠ .ok (some kept) := by
    rw [hanswer, hkept]
    decide
  exact ⟨hname, hfree, hanswer, hkept, hne⟩

end Session

end DialectSql
