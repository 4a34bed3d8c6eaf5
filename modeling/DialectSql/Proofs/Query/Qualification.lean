import DialectSql.Proofs.Statement.Naming

/-!
# The prefix put in last and the prefix put in first

A query builds its statement with the placeholder in the names of tables and puts the prefix into
the finished text. `Query.texts` lists the texts of the caller that such a statement has in it. If
the placeholder occurs in none of them, the statement is the one in which the prefix is written into
the names from the start: each name gets the prefix once, and no placeholder arises where two texts
meet (`Query.sql_eq_qualified`). This holds for every prefix, even for one with the placeholder or
a part of it in it, and for a name that starts with the end of the placeholder.
-/

set_option autoImplicit false

namespace DialectSql

open Text

/-! ## Conditions -/

/-- The values of an operand. -/
def Operand.literals : Operand → List Literal
  | scalar v => [v]
  | list vs => vs
  | range low high => [low, high]

/-- The texts of a predicate as they are written: the column and the literals. -/
def Predicate.texts (st : Style) (p : Predicate) : List String :=
  st.dialect.identifier p.column ::
    p.operand.literals.filterMap fun v => (st.literal v).toOption

/-- The texts of the predicates of a condition. -/
def Condition.texts (st : Style) : Condition → List String
  | leaf p => p.texts st
  | group left _ right | chain left _ right => left.texts st ++ right.texts st

/-- The comparisons of a join condition. -/
def JoinCondition.texts : JoinCondition → List String
  | none => []
  | terms first rest => first :: rest.map Prod.snd

theorem avoids_keyword (o : Operator) : avoids tablePlaceholder o.keyword = true := by
  rcases o with c | negated | negated | negated | negated
  · cases c <;> decide
  all_goals cases negated <;> decide

/-- A written literal of an operand has no placeholder if none of its texts has. -/
theorem not_occurs_literal {st : Style} {operand : Operand}
    (htexts : Unmarked (operand.literals.filterMap fun v => (st.literal v).toOption)) {v : Literal}
    (hv : v ∈ operand.literals) {text : String} (h : st.literal v = .ok text) :
    ¬ Occurs tablePlaceholder text :=
  htexts text (List.mem_filterMap.mpr ⟨v, hv, by rw [h]; rfl⟩)

/-- The words between the literals of an operand make no placeholder. -/
theorem Operand.not_occurs_render {st : Style} {operand : Operand} {text : String}
    (h : operand.render st = .ok text)
    (htexts : Unmarked (operand.literals.filterMap fun v => (st.literal v).toOption)) :
    ¬ Occurs tablePlaceholder text := by
  cases operand with
  | scalar v => exact not_occurs_literal htexts List.mem_cons_self h
  | list vs =>
    obtain ⟨items, hitems, hrender⟩ := exists_of_bind_eq_ok h
    cases hrender
    have hfree : Unmarked items := by
      intro item hitem
      obtain ⟨v, hv, hliteral⟩ := exists_of_mem_mapM hitems hitem
      exact not_occurs_literal htexts hv hliteral
    exact not_occurs_parenthesized (not_occurs_intercalate words_comma hfree)
  | range low high =>
    obtain ⟨first, hlow, hrest⟩ := exists_of_bind_eq_ok h
    obtain ⟨last, hhigh, hrender⟩ := exists_of_bind_eq_ok hrest
    cases hrender
    have hfirst := not_occurs_literal htexts List.mem_cons_self hlow
    have hlast := not_occurs_literal htexts (List.mem_cons_of_mem _ List.mem_cons_self) hhigh
    rw [occurs_append_separator tablePlaceholder_ne_empty (by decide)]
    exact not_or.mpr ⟨hfirst, hlast⟩

/-- The column, the keyword and the operand are kept apart by spaces. -/
theorem Predicate.not_occurs_render {st : Style} {p : Predicate} {text : String}
    (h : p.render st = .ok text) (htexts : Unmarked (p.texts st)) :
    ¬ Occurs tablePlaceholder text := by
  rw [texts, unmarked_cons] at htexts
  obtain ⟨operand, hoperand, hrender⟩ := exists_of_bind_eq_ok h
  have hword := not_occurs_of_avoids tablePlaceholder_ne_empty (avoids_keyword p.operator)
  rw [← Except.ok.inj hrender]
  exact not_occurs_joined words_blank (not_occurs_joined words_blank htexts.1 hword)
    (Operand.not_occurs_render hoperand htexts.2)

theorem not_occurs_connected {left right : String} (hleft : ¬ Occurs tablePlaceholder left)
    (hright : ¬ Occurs tablePlaceholder right) (k : Connective) :
    ¬ Occurs tablePlaceholder (left ++ " " ++ k.keyword ++ " " ++ right) := by
  have hword : ¬ Occurs tablePlaceholder k.keyword := by
    cases k <;> decide
  exact not_occurs_joined words_blank (not_occurs_joined words_blank hleft hword) hright

/-- A condition has a placeholder only if one of its texts has. -/
theorem Condition.not_occurs_render {st : Style} {c : Condition} {text : String}
    (h : c.render st = .ok text) (htexts : Unmarked (c.texts st)) :
    ¬ Occurs tablePlaceholder text := by
  induction c generalizing text with
  | leaf p => exact Predicate.not_occurs_render h htexts
  | group left k right ihl ihr =>
    obtain ⟨l, hl, hrest⟩ := exists_of_bind_eq_ok h
    obtain ⟨r, hr, hrender⟩ := exists_of_bind_eq_ok hrest
    obtain ⟨hleft, hright⟩ := unmarked_append.mp htexts
    have hconnected := not_occurs_connected (ihl hl hleft) (ihr hr hright) k
    have henclosed := not_occurs_parenthesized hconnected
    rw [← Except.ok.inj hrender]
    simpa only [String.append_assoc] using henclosed
  | chain left k right ihl ihr =>
    obtain ⟨l, hl, hrest⟩ := exists_of_bind_eq_ok h
    obtain ⟨r, hr, hrender⟩ := exists_of_bind_eq_ok hrest
    obtain ⟨hleft, hright⟩ := unmarked_append.mp htexts
    rw [← Except.ok.inj hrender]
    exact not_occurs_connected (ihl hl hleft) (ihr hr hright) k

/-- A condition of joins has a placeholder only if one of its terms has. -/
theorem JoinCondition.not_occurs_render {j : JoinCondition} (htexts : Unmarked j.texts) :
    Unmarked j.render?.toList := by
  cases j with
  | none => exact unmarked_nil
  | terms first rest =>
    obtain ⟨hfirst, hrest⟩ := unmarked_cons.mp htexts
    refine unmarked_cons.mpr ⟨?_, unmarked_nil⟩
    -- The terms are written from left to right, so the text of the first ones is general.
    induction rest generalizing first with
    | nil => exact hfirst
    | cons term rest ih =>
      obtain ⟨hterm, hrest'⟩ := unmarked_cons.mp hrest
      have hconnected := not_occurs_connected hfirst hterm term.1
      exact ih _ (unmarked_cons.mpr ⟨hconnected, hrest'⟩) hconnected hrest'

/-! ## Statements of a query -/

namespace Query

/-- The texts of the accumulated condition. -/
def conditionTexts (q : Query) : List String :=
  q.fragments.condition.toList.flatMap (Condition.texts q.style)

/-- The texts of the joins: the tables with their aliases, and the shared columns or, if there are
none, the comparisons on which the joins are made. -/
def joinTexts (q : Query) : List String :=
  if q.fragments.joins = [] then []
  else
    q.fragments.joins.flatMap Join.texts ++
      (if q.fragments.usingColumns = [] then q.fragments.joinCondition.texts
        else q.fragments.usingColumns)

/-- The texts of the caller in a statement of the query, as they are written in it. -/
def texts (q : Query) (o : Operation) (p : Parameters) : List String :=
  let f := q.fragments
  match o with
  | .get =>
      f.table.toList ++ f.keys ++ q.joinTexts ++ q.conditionTexts ++ f.groupBy ++ f.having ++
        f.orderBy
  | .store => f.table.toList ++ f.keys ++ f.rows.flatten
  | .update => f.table.toList ++ f.keys ++ f.rows.flatten ++ q.conditionTexts
  | .delete => f.table.toList ++ q.conditionTexts
  | .truncate | .drop => f.table.toList
  | .create =>
      ((p.name.bind nonblank?).or f.table).toList ++
        (if q.dialect.isMySQL then (p.engine.bind nonblank?).toList else []) ++
        f.columns.flatMap (Column.texts q.style)

variable {q : Query}

theorem unmarked_conditionSql {w : Option String} (h : q.conditionSql = .ok w)
    (htexts : Unmarked q.conditionTexts) : Unmarked w.toList := by
  unfold conditionSql at h
  unfold conditionTexts at htexts
  split at h
  · next c hc =>
    obtain ⟨text, htext, hw⟩ := exists_of_bind_eq_ok h
    rw [hc] at htexts
    cases hw
    refine unmarked_cons.mpr ⟨?_, unmarked_nil⟩
    exact Condition.not_occurs_render htext (unmarked_flatMap.mp htexts c (by simp))
  · cases h
    exact unmarked_nil

/-- The joins of a query and what links them have a placeholder only if one of their texts has. -/
theorem unmarked_joins (htexts : Unmarked q.joinTexts) :
    (∀ j ∈ q.fragments.joins, Unmarked j.texts) ∧
      (q.fragments.joins ≠ [] →
        Unmarked (if q.fragments.usingColumns = [] then q.fragments.joinCondition.render?.toList
          else q.fragments.usingColumns)) := by
  unfold joinTexts at htexts
  split at htexts
  · next hnone =>
    rw [hnone]
    exact ⟨List.forall_mem_nil _, fun hne => absurd rfl hne⟩
  · obtain ⟨htables, hlink⟩ := unmarked_append.mp htexts
    refine ⟨unmarked_flatMap.mp htables, fun _ => ?_⟩
    split
    · next hshared =>
      rw [if_pos hshared] at hlink
      exact JoinCondition.not_occurs_render hlink
    · next hshared => rwa [if_neg hshared] at hlink

/-- The statement of a query whose texts do not have the placeholder in them is the one with the
prefix in its names. -/
theorem map_replace_build {new : String} {n' : TableNaming} {o : Operation} {p : Parameters}
    (h : (TableNaming.placeholder q.style).Renamed new n') (htexts : Unmarked (q.texts o p))
    {x : Statement} (hx : q.statement o p = .ok x) :
    (x.build q.style).map (replace tablePlaceholder new) = x.buildNaming q.style n' := by
  cases o with
  | get =>
    obtain ⟨w, hw, hstatement⟩ := exists_of_bind_eq_ok hx
    cases hstatement
    simp only [texts, unmarked_append] at htexts
    obtain ⟨⟨⟨⟨⟨⟨htable, hkeys⟩, hjoins⟩, hcondition⟩, hgroupBy⟩, hhaving⟩, horderBy⟩ := htexts
    -- The statement holds the condition as one text, of which `w` is what was written.
    have hjoins' := unmarked_joins hjoins
    exact Select.map_replace_build h q.style.dialect _ htable hkeys hjoins'.1 hjoins'.2
      (unmarked_conditionSql hw hcondition) hgroupBy hhaving horderBy
  | store =>
    cases hx
    simp only [texts, unmarked_append] at htexts
    obtain ⟨⟨htable, hkeys⟩, hrows⟩ := htexts
    exact Insert.map_replace_build h q.style.dialect _ htable hkeys hrows
  | update =>
    obtain ⟨w, hw, hstatement⟩ := exists_of_bind_eq_ok hx
    cases hstatement
    simp only [texts, unmarked_append] at htexts
    obtain ⟨⟨⟨htable, hkeys⟩, hrows⟩, hcondition⟩ := htexts
    exact Update.map_replace_build h _ htable hkeys hrows (unmarked_conditionSql hw hcondition)
  | delete =>
    obtain ⟨w, hw, hstatement⟩ := exists_of_bind_eq_ok hx
    cases hstatement
    simp only [texts, unmarked_append] at htexts
    exact Delete.map_replace_build h _ htexts.1 (unmarked_conditionSql hw htexts.2)
  | truncate =>
    cases hx
    exact Truncate.map_replace_build h q.style.dialect _ htexts
  | create =>
    cases hx
    simp only [texts, unmarked_append, unmarked_flatMap] at htexts
    obtain ⟨⟨hname, hengine⟩, hcolumns⟩ := htexts
    refine CreateTable.map_replace_build h q.style _ hname ?_ hcolumns
    intro hd
    rwa [dialect, if_pos hd] at hengine
  | drop =>
    cases hx
    exact DropTable.map_replace_build h q.style.dialect _ htexts

theorem template_eq_bind (q : Query) (o : Operation) (p : Parameters) :
    q.template o p = q.statement o p >>= fun x => x.build q.style := rfl

/-- What is built is the template with the prefix put in. -/
theorem sql_eq_map (q : Query) (o : Operation) (p : Parameters) :
    q.sql o p = (q.template o p).map (replace tablePlaceholder q.tablePrefix) := by
  unfold sql
  cases q.template o p <;> rfl

/-- **The prefix put in last is the prefix put in first.** A query whose texts do not have the
placeholder in them gives the statement that is built with the prefix in the names, or the same
error. -/
theorem sql_eq_qualified (hstyle : q.style = .standard q.dialect) {o : Operation} {p : Parameters}
    (htexts : Unmarked (q.texts o p)) :
    q.sql o p = q.statement o p >>= fun x =>
      x.buildNaming q.style (.qualified q.style q.tablePrefix) := by
  have hnames : (TableNaming.placeholder q.style).Renamed q.tablePrefix
      (.qualified q.style q.tablePrefix) := by
    rw [hstyle]
    exact renamed_standard q.dialect q.tablePrefix
  rw [sql_eq_map, template_eq_bind]
  exact map_bind_congr fun x hx => map_replace_build hnames htexts hx

end Query

namespace Session

/-- What a build answers is the text of its statement with the prefix in the names, if the texts of
the caller in it do not have the placeholder in them. -/
theorem build_eq_qualified (s : Session) (hstyle : s.query.style = .standard s.query.dialect)
    {o : Operation} {p : Parameters} (htexts : Unmarked (s.query.texts o p)) {x : Statement}
    (hx : s.query.statement o p = .ok x) {template : String}
    (htemplate : x.build s.query.style = .ok template) :
    ∃ sql, x.buildNaming s.query.style (.qualified s.query.style s.query.tablePrefix) = .ok sql ∧
      (s.perform (.build o p)).1 = .ok (some sql) := by
  have hsql := Query.sql_eq_qualified hstyle htexts
  have hreplaced : s.query.sql o p =
      .ok (replace tablePlaceholder s.query.tablePrefix template) := by
    rw [Query.sql_eq_map, Query.template_eq_bind, hx]
    show (x.build s.query.style).map _ = _
    rw [htemplate]
    rfl
  rw [hreplaced, hx] at hsql
  exact ⟨_, hsql.symm, perform_build_fst hreplaced⟩

/-- A name that starts with the end of the placeholder and a prefix that has it in it. -/
theorem build_eq_qualified_sqlite :
    let s : Session := { query := { Query.ofDialect .sqlite with
      tablePrefix := "*_DBPREFIX_*p"
      fragments := { table := some "_DBPREFIX_*", keys := ["*"],
                     joins := [⟨.left, "it's", some "i"⟩], usingColumns := ["id"] } } }
    s.query.style = .standard s.query.dialect ∧ Unmarked (s.query.texts .get {}) ∧
      Unmarked (s.query.texts .truncate {}) ∧
      (s.perform (.build .get {})).1 = .ok (some ("SELECT * FROM *_DBPREFIX_*p_DBPREFIX_*" ++
        " LEFT JOIN *_DBPREFIX_*pit's AS i USING (id)")) ∧
      (s.perform (.build .truncate {})).1 = .ok (some ("DELETE FROM *_DBPREFIX_*p_DBPREFIX_*; " ++
        "DELETE FROM SQLITE_SEQUENCE WHERE name='*_DBPREFIX_*p_DBPREFIX_*'")) := by
  intro s
  have hstyle : s.query.style = .standard s.query.dialect := rfl
  have hget : Unmarked (s.query.texts .get {}) := by decide
  have htruncate : Unmarked (s.query.texts .truncate {}) := by decide
  obtain ⟨selection, hselection, hanswer⟩ := build_eq_qualified s hstyle hget rfl rfl
  obtain ⟨removal, hremoval, hanswer'⟩ := build_eq_qualified s hstyle htruncate rfl rfl
  refine ⟨hstyle, hget, htruncate, ?_, ?_⟩
  · rw [hanswer, ← Except.ok.inj hselection]
    decide
  · rw [hanswer', ← Except.ok.inj hremoval]
    decide

end Session

end DialectSql
