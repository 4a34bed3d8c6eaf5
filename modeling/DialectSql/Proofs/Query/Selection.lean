import DialectSql.Proofs.Query.WellFormed

/-!
# Selections, phrase by phrase

A selection is put together from clauses that bring a space of their own, and a clause or an item
without text is left out. `Fragments.phrases` tells its text without either: it lists the phrases
of a selection in the order of SQL, those of each fragment that is set and no others, and the text
has a single space between any two of them.

The main statement `get_of_fragments` says so of every query that a run of calls reaches. That no
phrase is missing rests on the fragments being well-formed (`Fragments.WellFormed`).
-/

set_option autoImplicit false

namespace DialectSql

/-! ## Phrases -/

/-- A keyword with items behind it, if there are items. -/
def phrase (keyword separator : String) (items : List String) : List String :=
  if items = [] then [] else [keyword, separator.intercalate items]

/-- The type of a join unless it is plain, its table, and its alias if it has one. -/
def Join.phrases (d : Dialect) (j : Join) : List String :=
  (if j.type = .plain then [] else [j.type.keyword]) ++
    ["JOIN", d.tableReference tablePlaceholder j.table] ++ phrase "AS" "" j.label.toList

namespace Fragments

/-- What joined tables have in common: the shared columns or, if there are none, the condition of
the joins. Without a join there is neither. -/
def joinLink (f : Fragments) : List String :=
  if f.joins = [] then []
  else if f.usingColumns = [] then phrase "ON" "" f.joinCondition.render?.toList
  else ["USING", "(" ++ ",".intercalate f.usingColumns ++ ")"]

/-- The phrases of a selection up to its limit, in the order of SQL. -/
def phrases (f : Fragments) (d : Dialect) (table : String) (condition : Option String) :
    List String :=
  ["SELECT"] ++ (if f.distinct then ["DISTINCT"] else []) ++
    [",".intercalate f.keys, "FROM", d.tableReference tablePlaceholder table] ++
    f.joins.flatMap (Join.phrases d) ++ f.joinLink ++
    phrase "WHERE" "" condition.toList ++ phrase "GROUP BY" "," f.groupBy ++
    phrase "HAVING" " AND " f.having ++ phrase "ORDER BY" ", " f.orderBy

end Fragments

/-! ## Phrases behind spaces -/

/-- Phrases with a space in front of each of them. -/
def spaced (phrases : List String) : String := String.join (phrases.map (" " ++ ·))

@[simp] theorem spaced_nil : spaced [] = "" := rfl

@[simp] theorem spaced_cons (p : String) (ps : List String) :
    spaced (p :: ps) = " " ++ p ++ spaced ps := by
  simp [spaced]

@[simp] theorem spaced_append (ps qs : List String) :
    spaced (ps ++ qs) = spaced ps ++ spaced qs := by
  simp [spaced]

/-- Single spaces between phrases are a space in front of each but the first. -/
theorem intercalate_cons_eq_spaced (p : String) (ps : List String) :
    " ".intercalate (p :: ps) = p ++ spaced ps := by
  induction ps generalizing p with
  | nil => simp
  | cons q qs ih => rw [String.intercalate_cons_cons, ih, spaced_cons, String.append_assoc,
      String.append_assoc]

theorem clauseOfAll_eq_spaced (keyword separator : String) (items : List String) :
    clauseOfAll keyword separator items = spaced (phrase keyword separator items) := by
  unfold clauseOfAll phrase
  split
  · rfl
  · simp [String.append_assoc]

/-- A join is written as its phrases, each behind a space. -/
theorem Join.text_eq_spaced (st : Style) (j : Join) :
    j.text (.placeholder st) = spaced (j.phrases st.dialect) := by
  obtain ⟨type, table, label⟩ := j
  have htable : (TableNaming.placeholder st).reference table =
      st.dialect.tableReference tablePlaceholder table := rfl
  unfold text phrases
  rw [htable]
  by_cases hplain : type = .plain
  · cases label <;> simp [hplain, phrase, ← String.append_assoc]
  · cases label <;> simp [hplain, phrase, ← String.append_assoc]

theorem joinTexts_eq_spaced (st : Style) (js : List Join) :
    String.join (js.map (Join.text (.placeholder st))) =
      spaced (js.flatMap (Join.phrases st.dialect)) := by
  induction js with
  | nil => rfl
  | cons j js ih =>
    rw [List.map_cons, String.join_cons, ih, j.text_eq_spaced, List.flatMap_cons, spaced_append]

/-! ## The text of a selection -/

/-- Without joins neither the shared columns nor the condition of joins is written. -/
theorem Select.build_of_no_joins {s : Select} (d : Dialect) (n : TableNaming) (h : s.joins = [])
    (shared : List String) (link : Option String) :
    ({ s with usingColumns := shared, joinCondition := link } : Select).build d n =
      s.build d n := by
  have hjoinText : ({ s with usingColumns := shared, joinCondition := link } : Select).joinText n =
      s.joinText n := by
    unfold joinText
    rw [if_pos h, if_pos h]
  have htext (table : String) :
      ({ s with usingColumns := shared, joinCondition := link } : Select).text d n table =
        s.text d n table := by
    unfold text
    rw [hjoinText]
  unfold build
  simp only [htext]

namespace Query

/-- The selection of a query under a condition. -/
def selection (q : Query) (p : Parameters) (w : Option String) : Select where
  table := q.fragments.table
  distinct := q.fragments.distinct
  keys := q.fragments.keys
  joins := q.fragments.joins
  usingColumns := q.fragments.usingColumns
  joinCondition := q.fragments.joinCondition.render?
  condition := w
  groupBy := q.fragments.groupBy
  having := q.fragments.having
  orderBy := q.fragments.orderBy
  limit := p.limit
  offset := p.offset

/-- A selection is built from the fragments of the query, once its condition is written. -/
theorem template_get_eq (q : Query) (p : Parameters) :
    q.template .get p = q.conditionSql >>= fun w =>
      (q.selection p w).build q.dialect (.placeholder q.style) := q.template_get p

variable {q : Query}

/-- The joins with their link are phrases behind spaces. -/
theorem fullJoinText_eq_spaced (p : Parameters) (w : Option String) :
    (q.selection p w).fullJoinText (.placeholder q.style) =
      spaced (q.fragments.joins.flatMap (Join.phrases q.dialect) ++ q.fragments.joinLink) := by
  unfold Select.fullJoinText Fragments.joinLink selection
  dsimp only
  by_cases hjoins : q.fragments.joins = []
  · simp [hjoins]
  · rw [if_neg hjoins, if_neg hjoins, joinTexts_eq_spaced, spaced_append, ← dialect]
    congr 1
    split
    · exact clauseOfAll_eq_spaced "ON" "" _
    · simp [← String.append_assoc]

/-- A selection that leaves nothing out is its phrases with spaces between them, and the clause of
its limit. -/
theorem fullText_eq_phrases (p : Parameters) (w : Option String) (table : String) :
    (q.selection p w).fullText q.dialect (.placeholder q.style) table =
      " ".intercalate (q.fragments.phrases q.dialect table w) ++
        limitClause q.dialect p.limit p.offset (!q.fragments.orderBy.isEmpty) := by
  have hreference : (TableNaming.placeholder q.style).reference table =
      q.dialect.tableReference tablePlaceholder table := rfl
  have hdistinct : (if (q.selection p w).distinct then " DISTINCT" else "") =
      spaced (if q.fragments.distinct then ["DISTINCT"] else []) := by
    show (if q.fragments.distinct then " DISTINCT" else "") = _
    split <;> rfl
  have hfrom : " FROM " = " " ++ "FROM" ++ " " := rfl
  unfold Select.fullText Fragments.phrases
  rw [hdistinct, fullJoinText_eq_spaced, hreference, clauseOfAll_eq_spaced, clauseOfAll_eq_spaced,
    clauseOfAll_eq_spaced, clauseOfAll_eq_spaced, hfrom]
  simp only [selection, List.cons_append, List.nil_append, intercalate_cons_eq_spaced,
    spaced_append, spaced_cons, spaced_nil, String.append_assoc, String.empty_append]

/-- The selection of a query with well-formed fragments is its phrases with spaces between them, and
the clause of its limit. -/
theorem template_get_of_wellFormed (hq : q.fragments.WellFormed) {table : String}
    (htable : q.fragments.table = some table) (hkeys : q.fragments.keys ≠ []) {w : Option String}
    (hw : q.conditionSql = .ok w) (p : Parameters) :
    q.template .get p =
      .ok (" ".intercalate (q.fragments.phrases q.dialect table w) ++
        limitClause q.dialect p.limit p.offset (!q.fragments.orderBy.isEmpty)) := by
  have hstatement : q.statement .get p = .ok (.select (q.selection p w)) := by
    show (q.conditionSql >>= fun w => _) = _
    rw [hw]
    rfl
  have htidy := hq.table table (htable ▸ rfl)
  have hname : requireName .get .table q.fragments.table = .ok table := by
    rw [htable, ← htidy.trimmed]
    exact requireName_trim .get .table (htidy.trimmed.symm ▸ htidy.ne_empty)
  have hpieces : ∀ t ∈ (q.selection p w).pieces, t ≠ "" := pieces_ne_empty hq hstatement
  rw [template_eq_bind, hstatement, ok_bind]
  show (q.selection p w).build q.dialect (.placeholder q.style) = _
  rw [Select.build_eq_buildInFull hpieces, Select.buildInFull]
  show (requireName .get .table q.fragments.table >>= fun table =>
    if q.fragments.keys = [] then _ else _) = _
  rw [hname, ok_bind, if_neg hkeys]
  exact congrArg Except.ok (fullText_eq_phrases p w table)

/-- The query with other shared columns and another condition of the joins. -/
def withLink (q : Query) (shared : List String) (link : JoinCondition) : Query :=
  { q with fragments := { q.fragments with usingColumns := shared, joinCondition := link } }

/-- Without a join a selection depends neither on the shared columns nor on the condition of the
joins. -/
theorem template_get_withLink (h : q.fragments.joins = []) (shared : List String)
    (link : JoinCondition) (p : Parameters) :
    (q.withLink shared link).template .get p = q.template .get p := by
  have hcondition : (q.withLink shared link).conditionSql = q.conditionSql := rfl
  rw [template_get_eq, template_get_eq, hcondition]
  exact bind_congr fun w => Select.build_of_no_joins (s := q.selection p w) q.dialect
    (.placeholder q.style) h shared link.render?

end Query

namespace Session

/-- **A selection has every fragment once, in the order of SQL.** After any run of calls on an empty
query that has set a table and keys, and with a condition that can be written, the selection is the
phrases of its fragments with single spaces between them, and the limit behind them. Without a join
it depends neither on the shared columns nor on the condition of the joins. -/
theorem get_of_fragments (d : Dialect) (e : Escaper) (calls : List Call) (p : Parameters) :
    let q := (Session.run { query := .withEscaper d e } calls).query
    (∀ table w, q.fragments.table = some table → q.fragments.keys ≠ [] → q.conditionSql = .ok w →
      q.template .get p =
        .ok (" ".intercalate (q.fragments.phrases q.dialect table w) ++
          limitClause q.dialect p.limit p.offset (!q.fragments.orderBy.isEmpty))) ∧
      (q.fragments.joins = [] → ∀ shared link,
        (q.withLink shared link).template .get p = q.template .get p) := by
  intro q
  have hq : q.fragments.WellFormed := wellFormed_run Fragments.wellFormed_empty calls
  constructor
  · intro table w htable hkeys hw
    exact Query.template_get_of_wellFormed hq htable hkeys hw p
  · intro hjoins shared link
    exact Query.template_get_withLink hjoins shared link p

/-- Shared columns go before a condition of the joins, and SQL Server has its limit behind the order
of the rows. -/
theorem get_of_fragments_sqlServer :
    let calls : List Call :=
      [.table " users ", .distinct, .keys ["u.id", "MAX::p.at=>last"],
        .join "left outer" "posts" (some "p"), .join "" "tags" none,
        .joinWhere .replace "u.id" "=" "p.uid", .usingColumns ["id", "lang"],
        .restrict .replace "u.age" ">" (.scalar (.int 3)), .groupBy ["u.id", "u.lang"],
        .having ["COUNT(*) > 1", " last < 9 "], .orderBy ["u.id", "last"] ["", "desc"]]
    let q := (Session.run { query := .withEscaper .sqlServer .identity } calls).query
    q.fragments.table = some "users" ∧ q.fragments.keys ≠ [] ∧
      q.conditionSql = .ok (some "u.age > 3") ∧
      q.fragments.phrases q.dialect "users" (some "u.age > 3") =
        ["SELECT", "DISTINCT", "u.id,MAX(p.at) AS last", "FROM", "*_DBPREFIX_*users", "LEFT OUTER",
          "JOIN", "*_DBPREFIX_*posts", "AS", "p", "JOIN", "*_DBPREFIX_*tags", "USING", "(id,lang)",
          "WHERE", "u.age > 3", "GROUP BY", "u.id,u.lang", "HAVING", "COUNT(*) > 1 AND last < 9",
          "ORDER BY", "u.id, last DESC"] ∧
      q.template .get { limit := 10 } =
        .ok (" ".intercalate (q.fragments.phrases q.dialect "users" (some "u.age > 3")) ++
          " OFFSET 0 ROWS FETCH NEXT 10 ROWS ONLY") := by
  intro calls q
  have htable : q.fragments.table = some "users" := by rfl
  have hkeys : q.fragments.keys ≠ [] := by decide
  have hcondition : q.conditionSql = .ok (some "u.age > 3") := by rfl
  refine ⟨htable, hkeys, hcondition, by rfl, ?_⟩
  exact (get_of_fragments .sqlServer .identity calls { limit := 10 }).1 "users" _ htable hkeys
    hcondition

end Session

end DialectSql
