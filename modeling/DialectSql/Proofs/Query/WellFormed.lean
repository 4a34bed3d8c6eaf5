import DialectSql.Proofs.Query.Edit
import DialectSql.Proofs.Query.Refusal
import DialectSql.Proofs.Statement.Completeness

/-!
# What a query holds

Every call checks its arguments and writes some of them as SQL before it changes the fragments.
`Fragments.WellFormed` says what is known of each fragment because of that: names are trimmed and
not empty, a text that has been written is not empty, and a predicate has an operand that its
operator requires.

The fragments are well-formed in every session that a run of calls reaches from an empty query
(`wellFormed_run`), since each change of `Call.Edits` keeps them so. The main statement
`fragments_of_run` adds what follows for statements: nothing that a query holds is left out of them,
and no column is at fault when a table is made.
-/

set_option autoImplicit false

namespace DialectSql

open Text

/-! ## Well-formed fragments -/

/-- A text without blanks at its ends that is not empty. -/
structure Text.Tidy (s : String) : Prop where
  trimmed : trim s = s
  ne_empty : s ≠ ""

theorem tidy_trim {s : String} (h : trim s ≠ "") : Tidy (trim s) := ⟨trim_trim s, h⟩

theorem tidy_of_nonblank {s t : String} (h : nonblank? s = some t) : Tidy t := by
  obtain ⟨rfl, hne⟩ := nonblank?_eq_some_iff.mp h
  exact tidy_trim hne

/-- The operand that an operator requires: one value to compare, a pattern other than the null
value, some members, two bounds, or the null value. -/
def Operator.Requires : Operator → Operand → Prop
  | compare _, v => ∃ x, v = .scalar x
  | like _, v => ∃ x, v = .scalar x ∧ x ≠ .null
  | member _, v => ∃ xs, v = .list xs ∧ xs ≠ []
  | between _, v => ∃ low high, v = .range low high
  | isNull _, v => v = .scalar .null

/-- The predicates of a condition, from left to right. -/
def Condition.predicates : Condition → List Predicate
  | leaf p => [p]
  | group left _ right | chain left _ right => left.predicates ++ right.predicates

namespace JoinCondition

/-- The term without a connective, if there is one. -/
def first? : JoinCondition → Option String
  | none => Option.none
  | terms first _ => some first

/-- The terms that continue the first one. -/
def continuation : JoinCondition → List (Connective × String)
  | none => []
  | terms _ rest => rest

end JoinCondition

/-- What every call keeps true of the fragments. -/
structure Fragments.WellFormed (f : Fragments) : Prop where
  table : ∀ t ∈ f.table, Tidy t
  keys : ∀ k ∈ f.keys, k ≠ ""
  rows : ∀ row ∈ f.rows, row ≠ [] ∧ ∀ cell ∈ row, cell ≠ ""
  condition : ∀ c ∈ f.condition, ∀ p ∈ c.predicates,
    Tidy p.column ∧ p.operator.Requires p.operand
  joins : ∀ j ∈ f.joins, Tidy j.table ∧ ∀ l ∈ j.label, Tidy l
  usingColumns : ∀ item ∈ f.usingColumns, item ≠ ""
  joinCondition : f.joinCondition.continuation ≠ [] → f.joinCondition.first?.isSome
  joinTerms : ∀ term ∈ f.joinCondition.texts, term ≠ ""
  groupBy : ∀ item ∈ f.groupBy, item ≠ ""
  having : ∀ c ∈ f.having, Tidy c
  orderBy : ∀ item ∈ f.orderBy, item ≠ ""
  columns : ∀ col ∈ f.columns, Tidy col.name ∧ col.length ≠ some 0

/-! ## What a call adds -/

theorem Predicate.tidy_column (p : Predicate) : Tidy p.column :=
  ⟨p.column_trimmed, p.column_ne_empty⟩

/-- An operand that fits is of the form that the operator requires. -/
theorem Operator.requires_of_fits {o : Operator} {v : Operand} (h : o.fits v = true) :
    o.Requires v := by
  unfold fits at h
  split at h
  · exact ⟨_, rfl⟩
  · exact ⟨_, rfl, by simpa using h⟩
  · exact ⟨_, rfl, by simpa using h⟩
  · exact ⟨_, _, rfl⟩
  · next v =>
    obtain rfl : v = .null := by simpa using h
    rfl
  · cases h

/-- The names of a join that has been made are tidy. -/
theorem Join.tidy_of_make {t : JoinType} {table : String} {label : Option String} {j : Join}
    (h : make t table label = .ok j) : Tidy j.table ∧ ∀ l ∈ j.label, Tidy l := by
  unfold make at h
  split at h
  · next name hname =>
    cases h
    refine ⟨tidy_of_nonblank hname, fun l hl => ?_⟩
    obtain ⟨text, -, htext⟩ := Option.bind_eq_some_iff.mp hl
    exact tidy_of_nonblank htext
  · cases h

theorem Column.length_ne_of_validate {col : Column} (h : col.validate = .ok ()) :
    col.length ≠ some 0 := by
  unfold validate at h
  split at h
  · cases h
  · assumption

namespace JoinCondition

/-- A condition of joins that goes on has a first term. -/
theorem first?_isSome_of_continuation {j : JoinCondition} (h : j.continuation ≠ []) :
    j.first?.isSome := by
  cases j with
  | none => exact absurd rfl h
  | terms first rest => rfl

/-- Attaching a term adds no other text. -/
theorem mem_texts_of_attach {a : Attachment} {term : String} {j : JoinCondition} {t : String}
    (h : t ∈ (j.attach a term).texts) : t ∈ j.texts ∨ t = term := by
  cases a with
  | replace => exact Or.inr (List.mem_singleton.mp h)
  | join k =>
    cases j with
    | none => exact Or.inr (List.mem_singleton.mp h)
    | terms first rest =>
      simpa [attach, push, texts, or_assoc] using h

theorem foldl_ne_empty {first : String} (h : first ≠ "") (rest : List (Connective × String)) :
    rest.foldl (fun text (k, term) => text ++ " " ++ k.keyword ++ " " ++ term) first ≠ "" := by
  induction rest generalizing first with
  | nil => exact h
  | cons next rest ih => exact ih (by simp [String.append_eq_empty_iff])

/-- A join condition is written from its first term on. -/
theorem render?_ne_empty {j : JoinCondition} (h : ∀ term ∈ j.texts, term ≠ "") :
    ∀ text ∈ j.render?.toList, text ≠ "" := by
  cases j with
  | none => simp [render?]
  | terms first rest =>
    intro text htext
    obtain rfl := List.mem_singleton.mp htext
    exact foldl_ne_empty (h first List.mem_cons_self) rest

end JoinCondition

/-! ## All calls -/

theorem Fragments.wellFormed_empty : Fragments.WellFormed {} := by
  constructor <;> simp [JoinCondition.continuation, JoinCondition.texts]

/-- Every call keeps the fragments well-formed: one case for each change that a call makes. -/
theorem Fragments.WellFormed.edited {st : Style} {c : Call} {change : Fragments → Fragments}
    (hc : c.Edits st change) {f : Fragments} (hf : f.WellFormed) : (change f).WellFormed := by
  -- A condition of any form has predicates that have been checked when they were made.
  have hcondition (root : Option Condition) : ∀ c ∈ root, ∀ p ∈ c.predicates,
      Tidy p.column ∧ p.operator.Requires p.operand :=
    fun _ _ p _ => ⟨p.tidy_column, Operator.requires_of_fits p.fits⟩
  cases hc with
  | table hname =>
    refine { hf with table := fun t ht => ?_ }
    obtain rfl := Option.some.inj ht
    exact tidy_of_nonblank hname
  | distinct => exact { hf with }
  | keys hks => exact { hf with keys := keys_ne_empty hks }
  | values hne hcells =>
    have hrow : _ ≠ [] := List.ne_nil_of_length_pos
      ((length_of_mapM hcells).symm ▸ List.length_pos_iff.mpr hne)
    exact { hf with
      rows := List.forall_mem_append.mpr
        ⟨hf.rows, List.forall_mem_singleton.mpr ⟨hrow, literals_ne_empty hcells⟩⟩ }
  | restrict => exact { hf with condition := hcondition _ }
  | restrictGroup => exact { hf with condition := hcondition _ }
  | join ht hj =>
    exact { hf with
      joins := List.forall_mem_append.mpr
        ⟨hf.joins, List.forall_mem_singleton.mpr (Join.tidy_of_make hj)⟩ }
  | usingColumns hitems => exact { hf with usingColumns := Dialect.columnList_ne_empty hitems }
  | joinWhere hterm =>
    refine { hf with
      joinCondition := JoinCondition.first?_isSome_of_continuation
      joinTerms := fun t ht => ?_ }
    rcases JoinCondition.mem_texts_of_attach ht with hold | rfl
    · exact hf.joinTerms t hold
    · exact joinTerm_ne_empty hterm
  | orderBy hitems => exact { hf with orderBy := Dialect.orderItems_ne_empty hitems }
  | groupBy hitems => exact { hf with groupBy := Dialect.columnList_ne_empty hitems }
  | having hclauses =>
    refine { hf with having := fun c hc => ?_ }
    obtain ⟨clause, hclause, rfl⟩ := List.mem_map.mp hc
    exact tidy_trim (hclauses clause hclause)
  | @column col hvalid =>
    have hcol : Tidy col.name ∧ col.length ≠ some 0 :=
      ⟨⟨col.name_trimmed, col.name_ne_empty⟩, Column.length_ne_of_validate hvalid⟩
    exact { hf with
      columns := List.forall_mem_append.mpr ⟨hf.columns, List.forall_mem_singleton.mpr hcol⟩ }

namespace Session

/-- A call keeps the fragments well-formed, whether it is refused or not. -/
theorem wellFormed_perform {s : Session} (hs : s.query.fragments.WellFormed) (c : Call) :
    (s.perform c).2.query.fragments.WellFormed := by
  have houtcome := s.outcome c
  generalize s.perform c = r at houtcome ⊢
  cases houtcome with
  | refused e => exact hs
  | edited f h => exact hs.edited (Call.edits_of_edit h)
  | set g h => rwa [Call.fragments_of_setting h]
  | cleared deep h => exact Fragments.wellFormed_empty
  | built o p sql h hsql =>
    show (if s.query.autoReset then { s.query with fragments := {} } else s.query
      : Query).fragments.WellFormed
    split
    · exact Fragments.wellFormed_empty
    · exact hs

/-- The fragments stay well-formed through any run of calls. -/
theorem wellFormed_run {s : Session} (hs : s.query.fragments.WellFormed) (calls : List Call) :
    (s.run calls).query.fragments.WellFormed := by
  induction calls generalizing s with
  | nil => exact hs
  | cons c calls ih => exact ih (wellFormed_perform hs c)

end Session

/-! ## Statements -/

namespace Query

/-- The text of a statement with nothing left out. -/
def sqlInFull (q : Query) (o : Operation) (p : Parameters) : Except Error String := do
  let statement ← q.statement o p
  let text ← statement.buildInFull q.style (.placeholder q.style)
  return replace tablePlaceholder q.tablePrefix text

variable {q : Query}

/-- The condition of a query has a text that is not empty, if there is one. -/
theorem conditionSql_ne_empty {w : Option String} (h : q.conditionSql = .ok w) :
    ∀ t ∈ w.toList, t ≠ "" := by
  unfold conditionSql at h
  split at h
  · obtain ⟨text, htext, rfl⟩ := exists_of_map_eq_ok h
    intro t ht
    obtain rfl := List.mem_singleton.mp ht
    exact Condition.render_ne_empty htext
  · cases h
    simp

/-- None of the texts that a statement takes from well-formed fragments is empty. -/
theorem pieces_ne_empty (hq : q.fragments.WellFormed) {o : Operation} {p : Parameters}
    {s : Statement} (h : q.statement o p = .ok s) : ∀ t ∈ s.pieces, t ≠ "" := by
  -- One case for each operation: the texts are those of the fragments that it uses.
  have hrows : ∀ t ∈ q.fragments.rows.flatten, t ≠ "" := by
    intro t ht
    obtain ⟨row, hrow, hcell⟩ := List.mem_flatten.mp ht
    exact (hq.rows row hrow).2 t hcell
  cases o with
  | get =>
    obtain ⟨w, hw, hs⟩ := exists_of_bind_eq_ok h
    cases hs
    simp only [Statement.pieces, Select.pieces, List.forall_mem_append]
    exact ⟨⟨⟨⟨⟨⟨hq.keys, hq.usingColumns⟩, JoinCondition.render?_ne_empty hq.joinTerms⟩,
      conditionSql_ne_empty hw⟩, hq.groupBy⟩, fun c hc => (hq.having c hc).ne_empty⟩, hq.orderBy⟩
  | store =>
    cases h
    exact List.forall_mem_append.mpr ⟨hq.keys, hrows⟩
  | update =>
    obtain ⟨w, hw, hs⟩ := exists_of_bind_eq_ok h
    cases hs
    simp only [Statement.pieces, Update.pieces, List.forall_mem_append]
    exact ⟨⟨hq.keys, hrows⟩, conditionSql_ne_empty hw⟩
  | delete =>
    obtain ⟨w, hw, hs⟩ := exists_of_bind_eq_ok h
    cases hs
    exact conditionSql_ne_empty hw
  | truncate =>
    cases h
    exact List.forall_mem_nil _
  | create =>
    cases h
    exact List.forall_mem_nil _
  | drop =>
    cases h
    exact List.forall_mem_nil _

/-- A query with well-formed fragments leaves out no item of its statements. -/
theorem sql_eq_sqlInFull (hq : q.fragments.WellFormed) (o : Operation) (p : Parameters) :
    q.sql o p = q.sqlInFull o p := by
  rw [sql_eq_map, template_eq_bind, sqlInFull]
  cases h : q.statement o p with
  | error e => rfl
  | ok s =>
    have hbuild : s.build q.style = s.buildInFull q.style (.placeholder q.style) :=
      Statement.buildNaming_eq_buildInFull (pieces_ne_empty hq h) q.style _
    simp only [ok_bind, hbuild]
    cases s.buildInFull q.style (.placeholder q.style) <;> rfl

/-- A statement of well-formed fragments is refused as a whole, or because of a number. -/
theorem error_cases (hq : q.fragments.WellFormed) {o : Operation} {p : Parameters} {e : Error}
    (h : q.sql o p = .error e) :
    e.Structural o ∨ e.OfNumber (q.fragments.outline.pending o) := by
  have hrefusal : refusal (q.sql o p) = some e := refusal_eq_some_iff.mpr h
  rw [sql_eq_map, refusal_map, refusal_template] at hrefusal
  exact Outline.refusal_cases (fun col hcol => (hq.columns col hcol).2) hrefusal

end Query

namespace Session

/-- **The fragments of any query.** After any run of calls on an empty query the fragments are
well-formed. So every statement of it is built with nothing left out, and none is refused because of
the definition of a column. -/
theorem fragments_of_run (d : Dialect) (e : Escaper) (calls : List Call) :
    let s := Session.run { query := .withEscaper d e } calls
    s.query.fragments.WellFormed ∧
      (∀ o p, (s.perform (.build o p)).1 = (s.query.sqlInFull o p).map some) ∧
      ∀ o p fault, (s.perform (.build o p)).1 ≠ .error (.invalidColumn fault) := by
  intro s
  have hs : s.query.fragments.WellFormed := wellFormed_run Fragments.wellFormed_empty calls
  refine ⟨hs, fun o p => ?_, fun o p fault h => ?_⟩
  · rw [perform_build_answer, Query.sql_eq_sqlInFull hs]
  · rcases Query.error_cases hs (sql_of_perform_build h) with h | h <;> cases h

end Session

end DialectSql
