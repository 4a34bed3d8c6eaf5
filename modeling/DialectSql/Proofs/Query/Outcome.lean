import DialectSql.Query.Call

/-!
# What a call does

`Session.perform` runs a call as a computation that changes the query step by step. This module says
once what comes of it. A call on the fragments checks its arguments, and the change that it then
makes depends on them and on the style only (`Call.edit`, `perform_of_edit`). A setting changes the
rest of the query (`Call.setting`). A build answers with the text of the statement or is refused
(`perform_build`, `perform_buildNamed`).

`Session.Outcome` lists the five things that can come of a call, and `outcome` says that there are
no others. The main statement `perform_all_or_nothing` follows from it: a refused call leaves the
session as it was, and a build reports what it answers and clears the fragments at most.
-/

set_option autoImplicit false

namespace DialectSql

open Text

/-! ## What is refused and what is not -/

section Refused

variable {ε α β : Type} {x : Except ε α}

theorem ok_bind (a : α) (f : α → Except Error β) : Except.ok a >>= f = f a := rfl

/-- A result of two steps comes from results of both. -/
theorem exists_of_bind_eq_ok {f : α → Except ε β} {b : β} (h : x >>= f = .ok b) :
    ∃ a, x = .ok a ∧ f a = .ok b := by
  cases x with
  | error e => cases h
  | ok a => exact ⟨a, rfl, h⟩

theorem exists_of_map_eq_ok {f : α → β} {b : β} (h : x.map f = .ok b) :
    ∃ a, x = .ok a ∧ f a = b := by
  cases x with
  | error e => cases h
  | ok a => exact ⟨a, rfl, Except.ok.inj h⟩

/-- A computation of two steps is refused by one of them. -/
theorem error_cases_of_bind {f : α → Except ε β} {e : ε} (h : x >>= f = .error e) :
    x = .error e ∨ ∃ a, x = .ok a ∧ f a = .error e := by
  cases x with
  | error e' => exact Or.inl (congrArg Except.error (Except.error.inj h))
  | ok a => exact Or.inr ⟨a, rfl, h⟩

theorem error_of_map {f : α → β} {e : ε} (h : x.map f = .error e) : x = .error e := by
  cases x with
  | error e' => exact congrArg Except.error (Except.error.inj h)
  | ok a => cases h

end Refused

/-! ## Calls on the fragments -/

/-- Columns as identifiers, of which there must be some, none of them blank. -/
def Dialect.columnList (d : Dialect) (clause : Clause) (columns : List String) :
    Except Error (List String) :=
  if columns = [] ∨ columns.any (trim · = "") then .error (.invalidClause clause .emptyColumnList)
  else .ok (columns.map d.identifier)

namespace Call

/-- The change of a call on the fragments, or why it is refused. Other calls have none. -/
def edit (st : Style) : Call → Option (Except Error (Fragments → Fragments))
  | table name => some <|
      match nonblank? name with
      | some n => .ok fun f => { f with table := some n }
      | none => .error (.invalidClause .table .emptyTableName)
  | distinct => some (.ok fun f => { f with distinct := true })
  | keys expressions => some <|
      (st.dialect.keys expressions).map fun ks f => { f with keys := ks }
  | values row => some <|
      if row = [] then .error (.invalidValue .emptyRow)
      else (st.literals row).map fun vs f => { f with rows := f.rows ++ [vs] }
  | restrict a name operator operand => some <|
      (Condition.ofText name operator operand).map fun c f =>
        { f with condition := some (a.attach f.condition c) }
  | restrictGroup a left connective right => some <|
      (Condition.groupOf left connective right).map fun c f =>
        { f with condition := some (a.attach f.condition c) }
  | join type name label => some <|
      ((JoinType.parse type).bind fun t => Join.make t name label).map fun j f =>
        { f with joins := f.joins ++ [j] }
  | usingColumns columns => some <|
      (st.dialect.columnList .usingColumns columns).map fun items f =>
        { f with usingColumns := items }
  | joinWhere a first operator second => some <|
      (JoinCondition.term first operator second).map fun term f =>
        { f with joinCondition := f.joinCondition.attach a term }
  | orderBy columns directions => some <|
      (st.dialect.orderItems columns directions).map fun items f => { f with orderBy := items }
  | groupBy columns => some <|
      (st.dialect.columnList .groupBy columns).map fun items f => { f with groupBy := items }
  | having clauses => some <|
      if clauses = [] ∨ clauses.any (trim · = "") then
        .error (.invalidClause .having .emptyClause)
      else .ok fun f => { f with having := clauses.map trim }
  | column definition => some <|
      definition.validate.map fun _ f => { f with columns := f.columns ++ [definition] }
  | _ => none

/-- The change of a call that sets what is not cleared together with the fragments. -/
def setting : Call → Option (Query → Query)
  | setEscaper e => some fun q => { q with style := { q.style with escaper := e } }
  | setTablePrefix text => some fun q => { q with tablePrefix := trim text }
  | setAutoReset enabled => some fun q => { q with autoReset := enabled }
  | _ => none

/-- The operation and the parameters of a call that builds a statement. -/
def building : Call → Option (Operation × Parameters)
  | build o p => some (o, p)
  | buildNamed text p => (Operation.ofText? text).map fun o => (o, p)
  | _ => none

theorem building_of_edit {c : Call} {st : Style} {r : Except Error (Fragments → Fragments)}
    (h : c.edit st = some r) : c.building = none := by
  cases c with
  | build o p => cases h
  | buildNamed text p => cases h
  | _ => rfl

theorem building_of_setting {c : Call} {g : Query → Query} (h : c.setting = some g) :
    c.building = none := by
  cases c with
  | build o p => cases h
  | buildNamed text p => cases h
  | _ => rfl

end Call

/-! ## Running a computation -/

/-- The answer of a computation, and the session after it. -/
def QueryM.on {α : Type} (m : QueryM α) (s : Session) : Except Error α × Session := m.run.run s

namespace Session

open QueryM

/-- The session with its fragments changed. -/
def withEdit (s : Session) (f : Fragments → Fragments) : Session :=
  { s with query := { s.query with fragments := f s.query.fragments } }

/-- What comes of a call on the fragments. -/
def edited (s : Session) : Except Error (Fragments → Fragments) →
    Except Error (Option String) × Session
  | .ok f => (.ok none, s.withEdit f)
  | .error e => (.error e, s)

/-- The session after a build of the given text: the statement is reported, and the fragments are
cleared if that is set, which is reported too. -/
def afterBuild (s : Session) (o : Operation) (sql : String) : Session where
  query := if s.query.autoReset then { s.query with fragments := {} } else s.query
  events := s.events ++ [.built o s.query.dialect sql] ++
    if s.query.autoReset then [.reset false] else []

theorem silently_dialect {k : Dialect → QueryM Unit} (s : Session) :
    (Call.silently (dialect >>= k)).on s = (Call.silently (k s.query.dialect)).on s := rfl

theorem silently_style {k : Style → QueryM Unit} (s : Session) :
    (Call.silently (style >>= k)).on s = (Call.silently (k s.query.style)).on s := rfl

theorem silently_ok {α : Type} (a : α) (k : α → QueryM Unit) (s : Session) :
    (Call.silently ((Except.ok a : Except Error α) >>= k)).on s =
      (Call.silently (k a)).on s := rfl

/-- A computation on the fragments is the check of its input and then the change. -/
theorem silently_lift {α : Type} (x : Except Error α) (f : α → Fragments → Fragments)
    (s : Session) :
    (Call.silently (do let a ← x; modifyFragments (f a))).on s = s.edited (x.map f) := by
  cases x <;> rfl

/-- A call with a list of columns checks them in the dialect of the session. -/
theorem silently_columnList (clause : Clause) (columns : List String)
    (f : List String → Fragments → Fragments) (s : Session) :
    (Call.silently (do let items ← columnList clause columns; modifyFragments (f items))).on s =
      s.edited ((s.query.dialect.columnList clause columns).map f) := by
  rw [columnList, Dialect.columnList]
  split <;> rfl

/-- A call on the fragments makes its change, or is refused and leaves the session as it was. -/
theorem perform_of_edit {s : Session} {c : Call} {r : Except Error (Fragments → Fragments)}
    (h : c.edit s.query.style = some r) : s.perform c = s.edited r := by
  -- One case for each call: its computation is opened as far as the check that `edit` makes too.
  -- The equations above are used by name, since unfolding all of them at once takes too long.
  cases c with
  | table name =>
    obtain rfl := Option.some.inj h
    show (Call.silently (QueryM.table name)).on s = _
    simp only [QueryM.table]
    cases nonblank? name <;> rfl
  | distinct =>
    obtain rfl := Option.some.inj h
    rfl
  | keys expressions =>
    obtain rfl := Option.some.inj h
    show (Call.silently (QueryM.keys expressions)).on s = _
    rw [QueryM.keys, silently_dialect, silently_lift]
    rfl
  | values row =>
    obtain rfl := Option.some.inj h
    show (Call.silently (QueryM.values row)).on s = _
    by_cases hrow : row = []
    · subst hrow
      rfl
    · simp only [QueryM.values, if_neg hrow]
      rw [silently_style, silently_lift]
  | restrict a name operator operand =>
    obtain rfl := Option.some.inj h
    show (Call.silently (QueryM.restrict a name operator operand)).on s = _
    rw [QueryM.restrict, QueryM.attachCondition, silently_lift]
  | restrictGroup a left connective right =>
    obtain rfl := Option.some.inj h
    show (Call.silently (QueryM.restrictGroup a left connective right)).on s = _
    rw [QueryM.restrictGroup, QueryM.attachCondition, silently_lift]
  | join type name label =>
    obtain rfl := Option.some.inj h
    show (Call.silently (QueryM.join type name label)).on s = _
    simp only [QueryM.join]
    cases JoinType.parse type with
    | error e => rfl
    | ok t =>
      rw [silently_ok, silently_lift]
      rfl
  | usingColumns columns =>
    obtain rfl := Option.some.inj h
    show (Call.silently (QueryM.usingColumns columns)).on s = _
    rw [QueryM.usingColumns, silently_columnList]
    rfl
  | joinWhere a first operator second =>
    obtain rfl := Option.some.inj h
    show (Call.silently (QueryM.joinWhere a first operator second)).on s = _
    rw [QueryM.joinWhere, silently_lift]
  | orderBy columns directions =>
    obtain rfl := Option.some.inj h
    show (Call.silently (QueryM.orderBy columns directions)).on s = _
    rw [QueryM.orderBy, silently_dialect, silently_lift]
    rfl
  | groupBy columns =>
    obtain rfl := Option.some.inj h
    show (Call.silently (QueryM.groupBy columns)).on s = _
    rw [QueryM.groupBy, silently_columnList]
    rfl
  | having clauses =>
    obtain rfl := Option.some.inj h
    show (Call.silently (QueryM.having clauses)).on s = _
    rw [QueryM.having]
    split <;> rfl
  | column definition =>
    obtain rfl := Option.some.inj h
    show (Call.silently (QueryM.column definition)).on s = _
    rw [QueryM.column, silently_lift]
  | setEscaper e => cases h
  | setTablePrefix text => cases h
  | setAutoReset enabled => cases h
  | reset deep => cases h
  | build o p => cases h
  | buildNamed text p => cases h

/-! ## Settings and resets -/

/-- A call on a setting is accepted and changes nothing else. -/
theorem perform_of_setting {s : Session} {c : Call} {g : Query → Query}
    (h : c.setting = some g) : s.perform c = (.ok none, { s with query := g s.query }) := by
  cases c with
  | setEscaper e => cases h; rfl
  | setTablePrefix text => cases h; rfl
  | setAutoReset enabled => cases h; rfl
  | _ => cases h

/-- A reset clears the fragments, and a deep one the prefix as well. -/
theorem perform_reset (s : Session) (deep : Bool) :
    s.perform (.reset deep) =
      (.ok none,
        { query := { s.query with
            fragments := {}, tablePrefix := if deep then "" else s.query.tablePrefix },
          events := s.events ++ [.reset deep] }) := rfl

/-! ## Builds -/

/-- A build answers with the text of the statement, or is refused and leaves the session as it
was. -/
theorem perform_build (s : Session) (o : Operation) (p : Parameters) :
    s.perform (.build o p) =
      match s.query.sql o p with
      | .ok sql => (.ok (some sql), s.afterBuild o sql)
      | .error e => (.error e, s) := by
  show on (some <$> do
    let sql ← (s.query.sql o p : QueryM String)
    report (.built o s.query.dialect sql)
    if s.query.autoReset then reset false
    return sql) s = _
  -- The text is made before anything is reported or cleared, so an error comes first.
  cases s.query.sql o p with
  | error e => rfl
  | ok sql =>
    by_cases h : s.query.autoReset
    · simp only [afterBuild, if_pos h]
      rfl
    · simp only [afterBuild, if_neg h, List.append_nil]
      rfl

/-- The answer of a build is the text of the statement or why there is none. -/
theorem perform_build_answer (s : Session) (o : Operation) (p : Parameters) :
    (s.perform (.build o p)).1 = (s.query.sql o p).map some := by
  rw [perform_build]
  cases s.query.sql o p <;> rfl

/-- A build is refused with the error of the statement. -/
theorem sql_of_perform_build {s : Session} {o : Operation} {p : Parameters} {e : Error}
    (h : (s.perform (.build o p)).1 = .error e) : s.query.sql o p = .error e := by
  rw [perform_build_answer] at h
  cases hsql : s.query.sql o p with
  | error e' =>
    rw [hsql] at h
    cases h
    rfl
  | ok text =>
    rw [hsql] at h
    cases h

/-- A build by a name is the build of the operation with this name, and is refused if there is
none. -/
theorem perform_buildNamed (s : Session) (text : String) (p : Parameters) :
    s.perform (.buildNamed text p) =
      match Operation.ofText? text with
      | some o => s.perform (.build o p)
      | none => (.error (.unsupportedOperation text), s) := by
  show on (do
    let o ← (Operation.parse text : QueryM Operation)
    some <$> QueryM.build o p) s = _
  rw [Operation.parse]
  cases Operation.ofText? text with
  | none => rfl
  | some o => rfl

/-! ## All calls -/

/-- What can come of a call on a session: the answer with the session after it. -/
inductive Outcome (s : Session) (c : Call) : Except Error (Option String) × Session → Prop where
  | refused (e : Error) : Outcome s c (.error e, s)
  | edited (f : Fragments → Fragments) (h : c.edit s.query.style = some (.ok f)) :
      Outcome s c (.ok none, s.withEdit f)
  | set (g : Query → Query) (h : c.setting = some g) :
      Outcome s c (.ok none, { s with query := g s.query })
  | cleared (deep : Bool) (h : c = .reset deep) :
      Outcome s c
        (.ok none,
          { query := { s.query with
              fragments := {}, tablePrefix := if deep then "" else s.query.tablePrefix },
            events := s.events ++ [.reset deep] })
  | built (o : Operation) (p : Parameters) (sql : String) (h : c.building = some (o, p))
      (hsql : s.query.sql o p = .ok sql) : Outcome s c (.ok (some sql), s.afterBuild o sql)

/-- The outcome of a call on the fragments: the change, or an error and no change. -/
theorem Outcome.of_edit {s : Session} {c : Call} {r : Except Error (Fragments → Fragments)}
    (h : c.edit s.query.style = some r) : Outcome s c (s.perform c) := by
  rw [perform_of_edit h]
  cases r with
  | error e => exact .refused e
  | ok f => exact .edited f h

theorem Outcome.of_setting {s : Session} {c : Call} {g : Query → Query}
    (h : c.setting = some g) : Outcome s c (s.perform c) := by
  rw [perform_of_setting h]
  exact .set g h

theorem Outcome.of_build {s : Session} {c : Call} {o : Operation} {p : Parameters}
    (h : c.building = some (o, p)) : Outcome s c (s.perform (.build o p)) := by
  rw [perform_build]
  cases hsql : s.query.sql o p with
  | error e => exact .refused e
  | ok sql => exact .built o p sql h hsql

/-- Nothing else comes of a call. -/
theorem outcome (s : Session) (c : Call) : Outcome s c (s.perform c) := by
  cases c with
  | setEscaper e => exact .of_setting rfl
  | setTablePrefix text => exact .of_setting rfl
  | setAutoReset enabled => exact .of_setting rfl
  | reset deep =>
    rw [perform_reset]
    exact .cleared deep rfl
  | build o p => exact .of_build rfl
  | buildNamed text p =>
    rw [perform_buildNamed]
    cases h : Operation.ofText? text with
    | none => exact .refused _
    | some o => exact .of_build (by rw [Call.building, h]; rfl)
  | _ => exact .of_edit rfl

/-- **Every call is all or nothing.** A refused call leaves the session as it was, with no event.
A call that builds a statement answers with its text; it reports the operation, the dialect and
that text, and unless the fragments are cleared after each statement the query stays as it was. If
they are, nothing but the fragments changes, and that is reported as one more event. -/
theorem perform_all_or_nothing (s : Session) (c : Call) :
    match s.perform c with
    | (.error _, after) => after = s
    | (.ok none, _) => c.building = none
    | (.ok (some sql), after) =>
        ∃ o p, c.building = some (o, p) ∧ s.query.sql o p = .ok sql ∧
          after =
            if s.query.autoReset then
              { query := { s.query with fragments := {} },
                events := s.events ++ [.built o s.query.dialect sql, .reset false] }
            else { s with events := s.events ++ [.built o s.query.dialect sql] } := by
  have houtcome := s.outcome c
  generalize s.perform c = r at houtcome ⊢
  cases houtcome with
  | refused e => rfl
  | edited f h => exact Call.building_of_edit h
  | set g h => exact Call.building_of_setting h
  | cleared deep h =>
    subst h
    rfl
  | built o p sql h hsql =>
    refine ⟨o, p, h, hsql, ?_⟩
    cases hauto : s.query.autoReset with
    | false => simp [afterBuild, hauto]
    | true => simp [afterBuild, hauto]

/-! ## Runs -/

theorem run_nil (s : Session) : s.run [] = s := rfl

theorem run_cons (s : Session) (c : Call) (calls : List Call) :
    s.run (c :: calls) = (s.perform c).2.run calls := rfl

theorem run_append (s : Session) (before after : List Call) :
    s.run (before ++ after) = (s.run before).run after := List.foldl_append

end Session

end DialectSql
