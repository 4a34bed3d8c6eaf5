import DialectSql.Proofs.Query.Outcome

/-!
# Restricted statements

A query is restricted once a call has put a condition to its fragments, and stays so until they are
cleared. A statement of a restricted query must not reach other rows: a deletion that lost its
condition would empty the table.

A condition never has an empty text (`Condition.render_ne_empty`), so the clause of a condition is
never left out. Selections, updates and deletions have the condition in one place and depend on it
nowhere else (`Query.exists_frame`). Calls keep the condition unless they clear the fragments
(`Session.condition_isSome_run`). The main statement `template_of_restricted` joins the three.

The clauses of a selection are listed on the way, so that it can be cut at any of them
(`Select.exists_cut`).
-/

set_option autoImplicit false

namespace DialectSql

/-! ## The text of a condition -/

/-- A condition has at least the spaces around its operator or its connective. -/
theorem Condition.render_ne_empty {st : Style} {c : Condition} {text : String}
    (h : c.render st = .ok text) : text ≠ "" := by
  cases c with
  | leaf p =>
    obtain ⟨operand, -, htext⟩ := exists_of_bind_eq_ok h
    rw [← Except.ok.inj htext]
    simp [String.append_eq_empty_iff]
  | group left k right =>
    obtain ⟨l, -, hl⟩ := exists_of_bind_eq_ok h
    obtain ⟨r, -, htext⟩ := exists_of_bind_eq_ok hl
    rw [← Except.ok.inj htext]
    simp [String.append_eq_empty_iff]
  | chain left k right =>
    obtain ⟨l, -, hl⟩ := exists_of_bind_eq_ok h
    obtain ⟨r, -, htext⟩ := exists_of_bind_eq_ok hl
    rw [← Except.ok.inj htext]
    simp [String.append_eq_empty_iff]

/-! ## The place of the condition in a statement -/

/-- The text with the clause of a condition put between its two parts. -/
def framed (w : Option String) (parts : String × String) : String :=
  parts.1 ++ optionalClause "WHERE" w ++ parts.2

namespace Select

/-- The text of a selection in front of its condition. -/
def opening (n : TableNaming) (s : Select) (table : String) : String :=
  "SELECT" ++ (if s.distinct then " DISTINCT" else "") ++ " " ++ listed "," s.keys ++
    " FROM " ++ n.reference table ++ s.joinText n

/-- The text of a selection behind its condition. -/
def closing (d : Dialect) (s : Select) : String :=
  clause "GROUP BY" (",".intercalate s.groupBy) ++
    clause "HAVING" (" AND ".intercalate s.having) ++
    clause "ORDER BY" (", ".intercalate s.orderBy) ++
    limitClause d s.limit s.offset (!s.orderBy.isEmpty)

/-- The condition of a selection stands between the joins and the groups. -/
theorem text_eq_framed (d : Dialect) (n : TableNaming) (s : Select) (table : String) :
    s.text d n table = framed s.condition (s.opening n table, s.closing d) := by
  unfold text framed opening closing
  rw [← String.append_assoc, ← String.append_assoc, ← String.append_assoc]

/-- The table that rows are selected from. A selection needs keys as well. -/
def source (s : Select) : Except Error String :=
  (requireName .get .table s.table).bind fun table =>
    if s.keys = [] then .error (.missing .get .keys) else .ok table

/-- What is checked of a selection is checked before its text is written. -/
theorem build_eq_map (d : Dialect) (n : TableNaming) (s : Select) :
    s.build d n = s.source.map (s.text d n) := by
  unfold build source
  cases requireName .get .table s.table with
  | error e => rfl
  | ok table =>
    show (if s.keys = [] then _ else _) = Except.map _ (if s.keys = [] then _ else _)
    split
    · rfl
    · rfl

/-- The clauses behind the joins, in order. What is left out is empty. -/
def clauses (d : Dialect) (s : Select) : List String :=
  [optionalClause "WHERE" s.condition, clause "GROUP BY" (",".intercalate s.groupBy),
    clause "HAVING" (" AND ".intercalate s.having), clause "ORDER BY" (", ".intercalate s.orderBy),
    limitClause d s.limit s.offset (!s.orderBy.isEmpty)]

/-- Behind the joins a selection is its clauses, one after the other. -/
theorem text_eq_clauses (d : Dialect) (n : TableNaming) (s : Select) (table : String) :
    s.text d n table = s.opening n table ++ String.join (s.clauses d) := by
  unfold text opening clauses
  simp only [String.join_cons, String.join_nil, String.append_empty, ← String.append_assoc]

/-- A selection that is not refused is cut at a clause by the selection that ends there: one with
the same checks and the same text up to the clause, and with no clause from there on. -/
theorem exists_cut {d : Dialect} {n : TableNaming} {s : Select} {sql : String}
    (h : s.build d n = .ok sql) (k : Nat) (start : Select) (hsource : start.source = s.source)
    (hopening : ∀ table, start.opening n table = s.opening n table)
    (hfront : (start.clauses d).take k = (s.clauses d).take k)
    (hback : String.join ((start.clauses d).drop k) = "") :
    ∃ opening, start.build d n = .ok opening ∧
      sql = opening ++ String.join ((s.clauses d).drop k) := by
  rw [build_eq_map] at h
  obtain ⟨table, htable, rfl⟩ := exists_of_map_eq_ok h
  refine ⟨start.text d n table, ?_, ?_⟩
  · rw [build_eq_map, hsource, htable]
    rfl
  · have hcut (t : Select) : String.join (t.clauses d) =
        String.join ((t.clauses d).take k) ++ String.join ((t.clauses d).drop k) := by
      rw [← String.join_append, List.take_append_drop]
    rw [text_eq_clauses, text_eq_clauses, hcut s, hcut start, hopening, hfront, hback,
      String.append_empty, String.append_assoc]

/-- What is checked of a selection is not its condition, so it has the same text around every
one. -/
theorem exists_frame (d : Dialect) (n : TableNaming) (s : Select) :
    ∃ r : Except Error (String × String),
      ∀ w, ({ s with condition := w } : Select).build d n = r.map (framed w) := by
  refine ⟨s.source.map fun table => (s.opening n table, s.closing d), ?_⟩
  intro w
  have hsource : ({ s with condition := w } : Select).source = s.source := rfl
  rw [build_eq_map, hsource]
  cases s.source with
  | error e => rfl
  | ok table => exact congrArg Except.ok (text_eq_framed d n { s with condition := w } table)

end Select

/-- An update ends with its condition. -/
theorem Update.exists_frame (n : TableNaming) (s : Update) :
    ∃ r : Except Error String,
      ∀ w, ({ s with condition := w } : Update).build n = r.map (framed w ⟨·, ""⟩) := by
  refine ⟨(requireName .update .table s.table).bind fun table => s.row.map fun row =>
    "UPDATE " ++ n.reference table ++
      clause "SET" (",".intercalate (s.keys.zipWith (fun k v => k ++ "=" ++ v) row)), ?_⟩
  intro w
  rw [build]
  cases requireName .update .table s.table with
  | error e => rfl
  | ok table =>
    show (s.row >>= fun row => _) = Except.map _ (Except.map _ s.row)
    cases s.row with
    | error e => rfl
    | ok row => exact congrArg Except.ok (by simp [text, framed])

/-- A deletion ends with its condition. -/
theorem Delete.exists_frame (n : TableNaming) (s : Delete) :
    ∃ r : Except Error String,
      ∀ w, ({ s with condition := w } : Delete).build n = r.map (framed w ⟨·, ""⟩) := by
  refine ⟨(requireName .delete .table s.table).map fun table =>
    "DELETE FROM " ++ n.reference table, ?_⟩
  intro w
  rw [build]
  cases requireName .delete .table s.table with
  | error e => rfl
  | ok table => exact congrArg Except.ok (by simp [framed])

theorem exists_frame_of_last {build : Option String → Except Error String}
    {r : Except Error String} (h : ∀ w, build w = r.map (framed w ⟨·, ""⟩)) :
    ∃ r' : Except Error (String × String),
      (∀ parts, r' = .ok parts → parts.2 = "") ∧ ∀ w, build w = r'.map (framed w) := by
  refine ⟨r.map (⟨·, ""⟩), ?_, ?_⟩
  · intro parts hparts
    obtain ⟨pre, -, rfl⟩ := exists_of_map_eq_ok hparts
    rfl
  · intro w
    rw [h w]
    cases r <;> rfl

namespace Query

/-- The query with another condition in place of its own. -/
def withCondition (q : Query) (c : Option Condition) : Query :=
  { q with fragments := { q.fragments with condition := c } }

/-- The query with another escaper in place of its own. -/
def escapedBy (q : Query) (e : Escaper) : Query := { q with style := { q.style with escaper := e } }

/-- Whether statements of the operation have a condition. -/
def restrictable : Operation → Bool
  | .get | .update | .delete => true
  | _ => false

theorem template_get (q : Query) (p : Parameters) :
    q.template .get p = q.conditionSql >>= fun w =>
      Select.build q.dialect (.placeholder q.style)
        { table := q.fragments.table, distinct := q.fragments.distinct, keys := q.fragments.keys,
          joins := q.fragments.joins, usingColumns := q.fragments.usingColumns,
          joinCondition := q.fragments.joinCondition.render?, condition := w,
          groupBy := q.fragments.groupBy, having := q.fragments.having,
          orderBy := q.fragments.orderBy, limit := p.limit, offset := p.offset } := by
  unfold template statement
  cases q.conditionSql <;> rfl

theorem template_update (q : Query) (p : Parameters) :
    q.template .update p = q.conditionSql >>= fun w =>
      Update.build (.placeholder q.style)
        { table := q.fragments.table, keys := q.fragments.keys, rows := q.fragments.rows,
          condition := w } := by
  unfold template statement
  cases q.conditionSql <;> rfl

theorem template_delete (q : Query) (p : Parameters) :
    q.template .delete p = q.conditionSql >>= fun w =>
      Delete.build (.placeholder q.style) { table := q.fragments.table, condition := w } := by
  unfold template statement
  cases q.conditionSql <;> rfl

/-- The condition stands in one place of a statement, behind all else in an update and a deletion,
and the rest of the text depends neither on it nor on the escaper. -/
theorem exists_frame (q : Query) {o : Operation} (ho : restrictable o = true) (p : Parameters) :
    ∃ r : Except Error (String × String),
      (∀ parts, r = .ok parts → o ≠ .get → parts.2 = "") ∧
        ∀ c e, ((q.withCondition c).escapedBy e).template o p =
          ((q.withCondition c).escapedBy e).conditionSql >>= fun w => r.map (framed w) := by
  cases o with
  | get =>
    obtain ⟨r, hr⟩ := Select.exists_frame q.dialect (.placeholder q.style)
      { table := q.fragments.table, distinct := q.fragments.distinct, keys := q.fragments.keys,
        joins := q.fragments.joins, usingColumns := q.fragments.usingColumns,
        joinCondition := q.fragments.joinCondition.render?, groupBy := q.fragments.groupBy,
        having := q.fragments.having, orderBy := q.fragments.orderBy, limit := p.limit,
        offset := p.offset }
    refine ⟨r, ?_, ?_⟩
    · intro parts _ hne
      exact absurd rfl hne
    · intro c e
      rw [template_get]
      exact congrArg _ (funext hr)
  | update =>
    obtain ⟨r, hr⟩ := Update.exists_frame (.placeholder q.style)
      { table := q.fragments.table, keys := q.fragments.keys, rows := q.fragments.rows }
    obtain ⟨r', hlast, hr'⟩ := exists_frame_of_last hr
    refine ⟨r', ?_, ?_⟩
    · intro parts hparts _
      exact hlast parts hparts
    · intro c e
      rw [template_update]
      exact congrArg _ (funext hr')
  | delete =>
    obtain ⟨r, hr⟩ := Delete.exists_frame (.placeholder q.style) { table := q.fragments.table }
    obtain ⟨r', hlast, hr'⟩ := exists_frame_of_last hr
    refine ⟨r', ?_, ?_⟩
    · intro parts hparts _
      exact hlast parts hparts
    · intro c e
      rw [template_delete]
      exact congrArg _ (funext hr')
  | store => cases ho
  | truncate => cases ho
  | create => cases ho
  | drop => cases ho

/-- A statement of a query is the one without a condition with the clause of its condition put
in. -/
theorem exists_template_eq_framed (q : Query) {o : Operation} (ho : restrictable o = true)
    (p : Parameters) :
    ∃ r : Except Error (String × String),
      (∀ parts, r = .ok parts → o ≠ .get → parts.2 = "") ∧
        (q.withCondition none).template o p = r.map (framed none) ∧
        q.template o p = q.conditionSql >>= fun w => r.map (framed w) := by
  obtain ⟨r, hlast, hr⟩ := q.exists_frame ho p
  exact ⟨r, hlast, hr none q.style.escaper, hr q.fragments.condition q.style.escaper⟩

/-- What a condition makes of the statements of a query: one that cannot be written is the error,
and the text of another one is put into the statement that there is without it. -/
structure Restricts (q : Query) (c : Condition) (o : Operation) (p : Parameters) : Prop where
  refused : ∀ e, c.render q.style = .error e → q.template o p = .error e
  kept : ∀ text, q.template o p = .ok text → ∃ body pre post,
    c.render q.style = .ok body ∧ body ≠ "" ∧ text = pre ++ " WHERE " ++ body ++ post ∧
      (q.withCondition none).template o p = .ok (pre ++ post) ∧ (o ≠ .get → post = "")

/-- A query with a condition is restricted by it: its text is not empty, so its clause is not left
out. -/
theorem restricts_of_condition {q : Query} {c : Condition} (hc : q.fragments.condition = some c)
    {o : Operation} (ho : restrictable o = true) (p : Parameters) : q.Restricts c o p := by
  obtain ⟨r, hlast, hwithout, hown⟩ := q.exists_template_eq_framed ho p
  have hsql : q.conditionSql = (c.render q.style).map some := by
    simp only [conditionSql, hc]
    cases c.render q.style <;> rfl
  have hwith : q.template o p = (c.render q.style).map some >>= fun w => r.map (framed w) := by
    rw [hown, hsql]
  constructor
  · intro e he
    rw [hwith, he]
    rfl
  · intro text htext
    rw [hwith] at htext
    obtain ⟨w, hw, hframe⟩ := exists_of_bind_eq_ok htext
    obtain ⟨body, hbody, rfl⟩ := exists_of_map_eq_ok hw
    obtain ⟨parts, hparts, rfl⟩ := exists_of_map_eq_ok hframe
    have hne := Condition.render_ne_empty hbody
    refine ⟨body, parts.1, parts.2, hbody, hne, ?_, ?_, hlast parts hparts⟩
    · have hkeyword : " " ++ "WHERE" ++ " " = " WHERE " := rfl
      show parts.1 ++ clause "WHERE" body ++ parts.2 = _
      rw [clause_of_ne_empty hne, hkeyword, ← String.append_assoc]
    · rw [hwithout, hparts]
      show Except.ok (parts.1 ++ "" ++ parts.2) = _
      rw [String.append_empty]

end Query

/-! ## Calls -/

namespace Call

/-- Whether a call puts a condition to the fragments. -/
def isRestriction : Call → Bool
  | restrict .. | restrictGroup .. => true
  | _ => false

/-- Whether a call clears the fragments whatever the query is. -/
def isReset : Call → Bool
  | reset _ => true
  | _ => false

theorem isReset_of_isRestriction {c : Call} (h : c.isRestriction = true) : c.isReset = false := by
  cases c with
  | reset deep => cases h
  | _ => rfl

theorem building_of_isRestriction {c : Call} (h : c.isRestriction = true) : c.building = none := by
  cases c with
  | build o p => cases h
  | buildNamed text p => cases h
  | _ => rfl

theorem exists_edit_of_isRestriction {c : Call} (hc : c.isRestriction = true) (st : Style) :
    ∃ r, c.edit st = some r := by
  cases c with
  | restrict a name operator operand => exact ⟨_, rfl⟩
  | restrictGroup a left connective right => exact ⟨_, rfl⟩
  | _ => cases hc

/-- The settings are no fragments. -/
theorem fragments_of_setting {c : Call} {g : Query → Query} (h : c.setting = some g)
    (q : Query) : (g q).fragments = q.fragments := by
  cases c with
  | setEscaper e => cases h; rfl
  | setTablePrefix text => cases h; rfl
  | setAutoReset enabled => cases h; rfl
  | _ => cases h

/-- A restriction that is not refused leaves a condition. -/
theorem condition_isSome_of_edit {c : Call} {st : Style} {f : Fragments → Fragments}
    (h : c.edit st = some (.ok f)) (hc : c.isRestriction = true) (fragments : Fragments) :
    (f fragments).condition.isSome = true := by
  cases c with
  | restrict a name operator operand =>
    obtain ⟨condition, -, rfl⟩ := exists_of_map_eq_ok (Option.some.inj h)
    rfl
  | restrictGroup a left connective right =>
    obtain ⟨condition, -, rfl⟩ := exists_of_map_eq_ok (Option.some.inj h)
    rfl
  | _ => cases hc

/-- Other changes of the fragments do not touch the condition. -/
theorem condition_eq_of_edit {c : Call} {st : Style} {f : Fragments → Fragments}
    (h : c.edit st = some (.ok f)) (hc : c.isRestriction = false) (fragments : Fragments) :
    (f fragments).condition = fragments.condition := by
  -- What a call checks decides whether there is a change, and the change sets another fragment.
  cases c with
  | table name =>
    have h := Option.some.inj h
    split at h
    · rw [← Except.ok.inj h]
    · cases h
  | distinct => rw [← Except.ok.inj (Option.some.inj h)]
  | keys expressions =>
    obtain ⟨ks, -, rfl⟩ := exists_of_map_eq_ok (Option.some.inj h)
    rfl
  | values row =>
    have h := Option.some.inj h
    split at h
    · cases h
    · obtain ⟨vs, -, rfl⟩ := exists_of_map_eq_ok h
      rfl
  | restrict a name operator operand => cases hc
  | restrictGroup a left connective right => cases hc
  | join type name label =>
    obtain ⟨j, -, rfl⟩ := exists_of_map_eq_ok (Option.some.inj h)
    rfl
  | usingColumns columns =>
    obtain ⟨items, -, rfl⟩ := exists_of_map_eq_ok (Option.some.inj h)
    rfl
  | joinWhere a first operator second =>
    obtain ⟨term, -, rfl⟩ := exists_of_map_eq_ok (Option.some.inj h)
    rfl
  | orderBy columns directions =>
    obtain ⟨items, -, rfl⟩ := exists_of_map_eq_ok (Option.some.inj h)
    rfl
  | groupBy columns =>
    obtain ⟨items, -, rfl⟩ := exists_of_map_eq_ok (Option.some.inj h)
    rfl
  | having clauses =>
    have h := Option.some.inj h
    split at h
    · cases h
    · rw [← Except.ok.inj h]
  | column definition =>
    obtain ⟨checked, -, rfl⟩ := exists_of_map_eq_ok (Option.some.inj h)
    rfl
  | _ => cases h

end Call

namespace Session

/-- Whether a call puts a condition to the fragments and is not refused. -/
def restricts (s : Session) (c : Call) : Bool := (s.perform c).1.isOk && c.isRestriction

/-- Whether a call clears the fragments and is not refused: a reset, or a build if the fragments
are cleared after each statement. -/
def clears (s : Session) (c : Call) : Bool :=
  (s.perform c).1.isOk && (c.isReset || c.building.isSome && s.query.autoReset)

/-- Whether none of a sequence of calls clears the fragments. -/
def keeps (s : Session) : List Call → Bool
  | [] => true
  | c :: calls => !s.clears c && (s.perform c).2.keeps calls

theorem condition_isSome_of_restricts {s : Session} {c : Call} (h : s.restricts c = true) :
    (s.perform c).2.query.fragments.condition.isSome = true := by
  obtain ⟨hok, hc⟩ := Bool.and_eq_true_iff.mp h
  obtain ⟨r, hr⟩ := Call.exists_edit_of_isRestriction hc s.query.style
  rw [perform_of_edit hr] at hok ⊢
  cases r with
  | error e => cases hok
  | ok f => exact Call.condition_isSome_of_edit hr hc s.query.fragments

/-- A call that clears the fragments leaves none of them. -/
theorem fragments_perform_of_clears {s : Session} {c : Call} (h : s.clears c = true) :
    (s.perform c).2.query.fragments = {} := by
  obtain ⟨hok, hc⟩ := Bool.and_eq_true_iff.mp h
  have houtcome := s.outcome c
  generalize s.perform c = r at houtcome hok ⊢
  cases houtcome with
  | refused e => cases hok
  | edited f hf =>
    rw [Call.building_of_edit hf] at hc
    cases c with
    | reset deep => cases hf
    | _ => cases hc
  | set g hg =>
    rw [Call.building_of_setting hg] at hc
    cases c with
    | reset deep => cases hg
    | _ => cases hc
  | cleared deep hdeep => rfl
  | built o p sql ho =>
    have hauto : s.query.autoReset = true := by
      rcases Bool.or_eq_true_iff.mp hc with hreset | hbuild
      · cases c with
        | reset deep => cases ho
        | _ => cases hreset
      · exact (Bool.and_eq_true_iff.mp hbuild).2
    show (if s.query.autoReset then _ else s.query : Query).fragments = {}
    rw [if_pos hauto]

/-- A call that does not clear the fragments leaves them alone or makes the change of an accepted
call on them. -/
theorem fragments_perform_of_not_clears {s : Session} {c : Call} (hclears : s.clears c = false) :
    (s.perform c).2.query.fragments = s.query.fragments ∨
      ∃ f, c.edit s.query.style = some (.ok f) ∧ (s.perform c).1.isOk = true ∧
        (s.perform c).2.query.fragments = f s.query.fragments := by
  rw [clears] at hclears
  have houtcome := s.outcome c
  generalize s.perform c = r at houtcome hclears ⊢
  cases houtcome with
  | refused e => exact Or.inl rfl
  | edited f hf => exact Or.inr ⟨f, hf, rfl, rfl⟩
  | set g hg => exact Or.inl (Call.fragments_of_setting hg s.query)
  | cleared deep hdeep =>
    subst hdeep
    cases hclears
  | built o p sql ho =>
    -- A build clears the fragments only together with `autoReset`, and this one does not.
    have hauto : ¬ s.query.autoReset = true := by
      intro hauto
      simp [Except.isOk, Except.toBool, ho, hauto] at hclears
    left
    show (if s.query.autoReset then _ else s.query : Query).fragments = _
    rw [if_neg hauto]

/-- A call that neither clears the fragments nor restricts the query leaves the condition as it
is. -/
theorem condition_perform_eq {s : Session} {c : Call} (hclears : s.clears c = false)
    (hrestricts : s.restricts c = false) :
    (s.perform c).2.query.fragments.condition = s.query.fragments.condition := by
  rcases fragments_perform_of_not_clears hclears with hsame | ⟨f, hf, hok, hchanged⟩
  · rw [hsame]
  · rw [restricts, hok, Bool.true_and] at hrestricts
    rw [hchanged]
    exact Call.condition_eq_of_edit hf hrestricts s.query.fragments

/-- A call that does not clear the fragments leaves a condition among them. -/
theorem condition_isSome_perform {s : Session} {c : Call} (hclears : s.clears c = false)
    (h : s.query.fragments.condition.isSome = true) :
    (s.perform c).2.query.fragments.condition.isSome = true := by
  cases hrestricts : s.restricts c with
  | true => exact condition_isSome_of_restricts hrestricts
  | false => rwa [condition_perform_eq hclears hrestricts]

/-- A run that does not clear the fragments leaves a condition among them. -/
theorem condition_isSome_run {s : Session} {calls : List Call} (hkeeps : s.keeps calls = true)
    (h : s.query.fragments.condition.isSome = true) :
    (s.run calls).query.fragments.condition.isSome = true := by
  -- That there is a condition is the invariant; which one it is may change with every call.
  induction calls generalizing s with
  | nil => exact h
  | cons c calls ih =>
    obtain ⟨hc, hcalls⟩ := Bool.and_eq_true_iff.mp hkeeps
    exact ih hcalls (condition_isSome_perform (by simpa using hc) h)

/-- **A restricted statement never becomes an unrestricted one.** A call has put a condition to the
fragments in the course of a run, and nothing has cleared them since. Then there is a condition, and
each selection, update or deletion that can be built holds the whole of its text after `WHERE`, an
update and a deletion at the end. Apart from that clause it is the statement without a condition. -/
theorem template_of_restricted (s : Session) (before : List Call) (c : Call) (after : List Call)
    (hc : (s.run before).restricts c = true)
    (hafter : (s.run (before ++ [c])).keeps after = true)
    (o : Operation) (ho : Query.restrictable o = true) (p : Parameters) :
    ∃ condition, (s.run (before ++ c :: after)).query.fragments.condition = some condition ∧
      (s.run (before ++ c :: after)).query.Restricts condition o p := by
  have hrun : s.run (before ++ c :: after) = (s.run (before ++ [c])).run after := by
    rw [← run_append, List.append_assoc, List.singleton_append]
  have hlast : s.run (before ++ [c]) = ((s.run before).perform c).2 := run_append s before [c]
  have hsome : (s.run (before ++ c :: after)).query.fragments.condition.isSome = true := by
    rw [hrun]
    apply condition_isSome_run hafter
    rw [hlast]
    exact condition_isSome_of_restricts hc
  obtain ⟨condition, hcondition⟩ := Option.isSome_iff_exists.mp hsome
  exact ⟨condition, hcondition, Query.restricts_of_condition hcondition ho p⟩

/-- The second restriction is refused, since its column is blank. -/
theorem template_of_restricted_deletion :
    let s : Session := { query := .ofDialect .sqlite }
    let c := Call.restrict .replace "id" "=" (.scalar (.int 3))
    let after := [.table "users", .restrict (.join .or) " " "=" (.scalar .null)]
    (s.run []).restricts c = true ∧ (s.run [c]).keeps after = true ∧
      Query.restrictable .delete = true ∧
      ∃ condition, (s.run (c :: after)).query.fragments.condition = some condition ∧
        (s.run (c :: after)).query.Restricts condition .delete {} := by
  intro s c after
  have hc : (s.run []).restricts c = true := by decide
  have hafter : (s.run [c]).keeps after = true := by decide
  exact ⟨hc, hafter, rfl, template_of_restricted s [] c after hc hafter .delete rfl {}⟩

end Session

end DialectSql
