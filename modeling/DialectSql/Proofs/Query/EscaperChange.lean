import DialectSql.Proofs.Query.ConditionHistory
import DialectSql.Proofs.Query.Edit
import DialectSql.Proofs.Query.Portability
import DialectSql.Proofs.Query.Quotation

/-!
# Changing the escaper

The escaper of a query can be changed between any two calls. Conditions and the default values of
columns are kept as they are, so they are written by the escaper in force when a statement is built
(`Query.exists_pieces`). Rows are written when they are added and keep the text of the escaper that
was in force then.

The main statement `query_of_escapers` also compares a run in which the escaper is changed with the
run in which the last escaper is there from the start: the two end in the same query up to the rows,
and each of the rows is written in the style in which it was added (`Session.writtenRows`). So
changes of the escaper can be moved about freely, but not across the addition of a row.
-/

set_option autoImplicit false

namespace DialectSql

open Text

/-! ## Calls and the escaper -/

namespace Call

/-- Only the rows that a call adds depend on the escaper. -/
theorem edit_eq_of_dialect {st st' : Style} (h : st.dialect = st'.dialect) {c : Call}
    (hc : ∀ row, c ≠ .values row) : c.edit st = c.edit st' := by
  cases c with
  | values row => exact absurd rfl (hc row)
  | keys expressions => simp only [edit, h]
  | usingColumns columns => simp only [edit, h]
  | orderBy columns directions => simp only [edit, h]
  | groupBy columns => simp only [edit, h]
  | _ => rfl

/-- No other call looks at the rows or changes them. -/
theorem Edits.withRows {st : Style} {c : Call} {change : Fragments → Fragments}
    (h : c.Edits st change) (hc : ∀ row, c ≠ .values row) (f : Fragments)
    (rows : List (List String)) :
    change { f with rows := rows } = { change f with rows := rows } := by
  cases h with
  | @values row => exact absurd rfl (hc row)
  | _ => rfl

theorem Edits.rows_eq {st : Style} {c : Call} {change : Fragments → Fragments}
    (h : c.Edits st change) (hc : ∀ row, c ≠ .values row) (f : Fragments) :
    (change f).rows = f.rows := by
  have hrows := congrArg Fragments.rows (h.withRows hc f f.rows)
  exact hrows

end Call

/-! ## Queries up to the rows -/

namespace Query

/-- The query with other rows. -/
def withRows (q : Query) (rows : List (List String)) : Query :=
  { q with fragments := { q.fragments with rows := rows } }

/-- Two queries that differ in the escaper and in the texts of the values at most. -/
structure SameButTexts (q q' : Query) : Prop where
  dialect : q.dialect = q'.dialect
  tablePrefix : q.tablePrefix = q'.tablePrefix
  autoReset : q.autoReset = q'.autoReset
  fragments : { q.fragments with rows := [] } = { q'.fragments with rows := [] }
  widths : q.fragments.rows.map List.length = q'.fragments.rows.map List.length

variable {q q' : Query}

/-- Queries that differ in texts only pass the same checks. -/
theorem SameButTexts.outline (h : q.SameButTexts q') :
    q.fragments.outline = q'.fragments.outline := by
  have hrest : { q.fragments with rows := [] }.outline = { q'.fragments with rows := [] }.outline :=
    congrArg Fragments.outline h.fragments
  have hwidths := h.widths
  simp_all [Fragments.outline]

/-- Queries that differ in texts only, with one style, differ in their rows. -/
theorem SameButTexts.eq_withRows (h : q.SameButTexts q') (hstyle : q.style = q'.style) :
    q = q'.withRows q.fragments.rows := by
  have hfragments : q.fragments = { q'.fragments with rows := q.fragments.rows } :=
    congrArg (fun f : Fragments => { f with rows := q.fragments.rows }) h.fragments
  obtain ⟨-, htablePrefix, hautoReset, -, -⟩ := h
  cases q with
  | mk style tablePrefix autoReset fragments =>
    rw [withRows, Query.mk.injEq]
    exact ⟨hstyle, htablePrefix, hautoReset, hfragments⟩

/-- Clearing the fragments makes up for all differences in the texts. -/
theorem SameButTexts.cleared (h : q.SameButTexts q') :
    SameButTexts { q with fragments := {} } { q' with fragments := {} } :=
  ⟨h.dialect, h.tablePrefix, h.autoReset, rfl, rfl⟩

end Query

namespace Session

variable {s s' : Session}

/-! ## One call -/

/-- Builds of queries that differ in texts only are refused alike. -/
theorem answer_eq_of_build (h : s.query.SameButTexts s'.query) (o : Operation) (p : Parameters) :
    refusal (s.perform (.build o p)).1 = refusal (s'.perform (.build o p)).1 := by
  rw [refusal_perform_build, refusal_perform_build, h.outline, h.dialect]

/-- Queries that differ in texts only still do so after a build. -/
theorem sameButTexts_build (h : s.query.SameButTexts s'.query) (o : Operation) (p : Parameters) :
    (s.perform (.build o p)).2.query.SameButTexts (s'.perform (.build o p)).2.query := by
  rw [query_perform_build, query_perform_build, answer_eq_of_build h, h.autoReset]
  split
  · exact h.cleared
  · exact h

/-- A row is refused for both queries or added to both, with texts of its own. -/
theorem sameButTexts_values (h : s.query.SameButTexts s'.query) (row : List Literal) :
    (s.perform (.values row)).2.query.SameButTexts (s'.perform (.values row)).2.query := by
  rw [perform_of_edit (s := s) rfl, perform_of_edit (s := s') rfl]
  by_cases hrow : row = []
  · simp only [if_pos hrow]
    exact h
  · simp only [if_neg hrow]
    rcases literals_alike s.query.style s'.query.style row with
      ⟨e, hcells, hcells'⟩ | ⟨cells, cells', hcells, hcells', hwidth⟩
    · rw [hcells, hcells']
      exact h
    · rw [hcells, hcells']
      refine ⟨h.dialect, h.tablePrefix, h.autoReset, h.fragments, ?_⟩
      show (s.query.fragments.rows ++ [cells]).map List.length =
        (s'.query.fragments.rows ++ [cells']).map List.length
      rw [List.map_append, List.map_append, h.widths, List.map_singleton, List.map_singleton,
        hwidth]

/-- Other calls on the fragments make one change of both queries. -/
theorem sameButTexts_edit (h : s.query.SameButTexts s'.query) {c : Call}
    (hc : ∀ row, c ≠ .values row) {r : Except Error (Fragments → Fragments)}
    (hr : c.edit s.query.style = some r) :
    (s.perform c).2.query.SameButTexts (s'.perform c).2.query := by
  have hr' : c.edit s'.query.style = some r := (Call.edit_eq_of_dialect h.dialect hc).symm.trans hr
  rw [perform_of_edit hr, perform_of_edit hr']
  cases r with
  | error e => exact h
  | ok f =>
    have hf := (Call.edits_of_edit hr).withRows hc
    have hrows := (Call.edits_of_edit hr).rows_eq hc
    refine ⟨h.dialect, h.tablePrefix, h.autoReset, ?_, ?_⟩
    · exact (hf _ []).symm.trans ((congrArg f h.fragments).trans (hf _ []))
    · exact (congrArg _ (hrows _)).trans (h.widths.trans (congrArg _ (hrows _)).symm)

/-- A call other than a change of the escaper. -/
theorem sameButTexts_perform (h : s.query.SameButTexts s'.query) {c : Call}
    (hc : c.escaper? = none) : (s.perform c).2.query.SameButTexts (s'.perform c).2.query := by
  cases c with
  | values row => exact sameButTexts_values h row
  | setEscaper e => cases hc
  | setTablePrefix text => exact ⟨h.dialect, rfl, h.autoReset, h.fragments, h.widths⟩
  | setAutoReset enabled => exact ⟨h.dialect, h.tablePrefix, rfl, h.fragments, h.widths⟩
  | reset deep =>
    refine ⟨h.dialect, ?_, h.autoReset, rfl, rfl⟩
    show (if deep then "" else s.query.tablePrefix) = if deep then "" else s'.query.tablePrefix
    rw [h.tablePrefix]
  | build o p => exact sameButTexts_build h o p
  | buildNamed text p =>
    rw [perform_buildNamed, perform_buildNamed]
    cases Operation.ofText? text with
    | none => exact h
    | some o => exact sameButTexts_build h o p
  | _ => exact sameButTexts_edit h (by simp) rfl

/-- A change of the escaper concerns texts only. -/
theorem sameButTexts_setEscaper (h : s.query.SameButTexts s'.query) {c : Call} {e : Escaper}
    (hc : c.escaper? = some e) : (s.perform c).2.query.SameButTexts s'.query := by
  cases c with
  | setEscaper e' => exact ⟨h.dialect, h.tablePrefix, h.autoReset, h.fragments, h.widths⟩
  | _ => cases hc

/-! ## Runs -/

/-- The calls of a run other than changes of the escaper do the same without these. -/
theorem sameButTexts_run (h : s.query.SameButTexts s'.query) (calls : List Call) :
    (s.run calls).query.SameButTexts
      (s'.run (calls.filter fun c => c.escaper?.isNone)).query := by
  -- A change of the escaper is made in the first run only; the second one skips it.
  induction calls generalizing s s' with
  | nil => exact h
  | cons c calls ih =>
    cases hc : c.escaper? with
    | none =>
      rw [List.filter_cons_of_pos (by simp [hc])]
      exact ih (sameButTexts_perform h hc)
    | some e =>
      rw [List.filter_cons_of_neg (by simp [hc])]
      exact ih (sameButTexts_setEscaper h hc)

/-! ## Rows -/

/-- The row that a call adds, with the style in which it is written. -/
def addedRow (s : Session) : Call → Option (Style × List Literal)
  | .values row => if (s.perform (.values row)).1.isOk then some (s.query.style, row) else none
  | _ => none

/-- The rows that a run has added since the fragments were last cleared, each with the style in
force when it was added. -/
def writtenRows (s : Session) (calls : List Call) : List (Style × List Literal) :=
  ((s.steps calls).rtakeWhile fun (t, c) => !t.clears c).filterMap fun (t, c) => t.addedRow c

/-- Rows, each written in a style of its own. -/
def writeRows (rows : List (Style × List Literal)) : Except Error (List (List String)) :=
  rows.mapM fun (st, row) => st.literals row

/-- A last call clears the rows or adds its own, if it has one. -/
theorem writtenRows_concat (s : Session) (calls : List Call) (c : Call) :
    s.writtenRows (calls ++ [c]) =
      if (s.run calls).clears c then []
      else s.writtenRows calls ++ ((s.run calls).addedRow c).toList := by
  rw [writtenRows, steps_concat, List.rtakeWhile_concat]
  cases hclears : (s.run calls).clears c with
  | true => simp [hclears]
  | false =>
    cases hrow : (s.run calls).addedRow c <;> simp [hclears, hrow, writtenRows]

theorem writeRows_append {rows added : List (Style × List Literal)}
    {cells more : List (List String)} (hrows : writeRows rows = .ok cells)
    (hadded : writeRows added = .ok more) : writeRows (rows ++ added) = .ok (cells ++ more) := by
  rw [writeRows] at hrows hadded ⊢
  rw [List.mapM_append, hrows, hadded]
  rfl

/-- A call with values adds its row as the style writes it, unless it is refused. -/
theorem exists_rows_values (s : Session) (row : List Literal) :
    ∃ more, writeRows (s.addedRow (.values row)).toList = .ok more ∧
      (s.perform (.values row)).2.query.fragments.rows = s.query.fragments.rows ++ more := by
  rw [addedRow, perform_of_edit (s := s) rfl]
  by_cases hrow : row = []
  · simp only [if_pos hrow]
    exact ⟨[], rfl, (List.append_nil _).symm⟩
  · simp only [if_neg hrow]
    cases hcells : s.query.style.literals row with
    | error e => exact ⟨[], rfl, (List.append_nil _).symm⟩
    | ok cells =>
      refine ⟨[cells], ?_, rfl⟩
      show writeRows [(s.query.style, row)] = _
      simp only [writeRows, List.mapM_cons, hcells]
      rfl

/-- A call that does not clear the fragments adds its row to them, if it has one. -/
theorem exists_rows_perform {s : Session} {c : Call} (hclears : s.clears c = false) :
    ∃ more, writeRows (s.addedRow c).toList = .ok more ∧
      (s.perform c).2.query.fragments.rows = s.query.fragments.rows ++ more := by
  cases c with
  | values row => exact exists_rows_values s row
  | _ =>
    refine ⟨[], rfl, ?_⟩
    rw [List.append_nil]
    rcases fragments_perform_of_not_clears hclears with hsame | ⟨f, hf, -, hchanged⟩
    · rw [hsame]
    · rw [hchanged]
      exact (Call.edits_of_edit hf).rows_eq (by simp) _

/-- After every run the rows are those that it has added, each written in its style. -/
theorem writeRows_writtenRows {s : Session} (hs : s.query.fragments.rows = []) (calls : List Call) :
    writeRows (s.writtenRows calls) = .ok (s.run calls).query.fragments.rows := by
  -- Whether a row still counts is decided by the calls behind it, so the induction is from the end.
  induction calls using List.reverseRecOn with
  | nil =>
    rw [run_nil, hs]
    rfl
  | append_singleton calls c ih =>
    rw [writtenRows_concat, run_concat]
    cases hclears : (s.run calls).clears c with
    | true =>
      rw [fragments_perform_of_clears hclears]
      rfl
    | false =>
      obtain ⟨more, hmore, hrows⟩ := exists_rows_perform hclears
      rw [hrows, if_neg Bool.false_ne_true]
      exact writeRows_append ih hmore

/-! ## Statements -/

theorem sql_withRows (q : Query) (rows : List (List String)) {o : Operation} (p : Parameters)
    (hstore : o ≠ .store) (hupdate : o ≠ .update) : (q.withRows rows).sql o p = q.sql o p := by
  cases o with
  | store => exact absurd rfl hstore
  | update => exact absurd rfl hupdate
  | _ => rfl

/-- A run ends in the query of the run with its last escaper, up to the rows. -/
theorem query_eq_constant (d : Dialect) (e : Escaper) (calls : List Call) :
    let last := (calls.filterMap Call.escaper?).getLastD e
    let others := calls.filter fun c => c.escaper?.isNone
    let q := (Session.run { query := .withEscaper d e } calls).query
    q = (Session.run { query := .withEscaper d last } others).query.withRows q.fragments.rows := by
  intro last others q
  have hempty : (Query.withEscaper d e).SameButTexts (.withEscaper d last) :=
    ⟨rfl, rfl, rfl, rfl, rfl⟩
  have hsame : q.SameButTexts (Session.run { query := .withEscaper d last } others).query :=
    sameButTexts_run hempty calls
  refine hsame.eq_withRows ?_
  have hothers : others.filterMap Call.escaper? = [] := by
    refine List.filterMap_eq_nil_iff.mpr fun c hc => ?_
    exact Option.isNone_iff_eq_none.mp (List.mem_filter.mp hc).2
  rw [style_run, style_run, hothers]
  rfl

/-- Changes of the escaper can be moved about, as long as the rows that a statement uses are added
in the same styles. -/
theorem build_eq_of_moved {d : Dialect} {e : Escaper} {calls moved : List Call}
    (hescapers : moved.filterMap Call.escaper? = calls.filterMap Call.escaper?)
    (hothers : (moved.filter fun c => c.escaper?.isNone) =
      calls.filter fun c => c.escaper?.isNone)
    {o : Operation} {p : Parameters}
    (hwritten : o = .store ∨ o = .update →
      Session.writtenRows { query := .withEscaper d e } moved =
        Session.writtenRows { query := .withEscaper d e } calls) :
    ((Session.run { query := .withEscaper d e } moved).perform (.build o p)).1 =
      ((Session.run { query := .withEscaper d e } calls).perform (.build o p)).1 := by
  have hrows (calls : List Call) :=
    writeRows_writtenRows (s := { query := .withEscaper d e }) rfl calls
  have hconstant := query_eq_constant d e calls
  have hmoved := query_eq_constant d e moved
  rw [hescapers, hothers] at hmoved
  rw [perform_build_answer, perform_build_answer]
  refine congrArg (Except.map some) ?_
  by_cases ho : o = .store ∨ o = .update
  · -- The rows are those that were added, and these are written alike in both runs.
    have hsame : (Session.run { query := .withEscaper d e } moved).query.fragments.rows =
        (Session.run { query := .withEscaper d e } calls).query.fragments.rows := by
      refine Except.ok.inj ((hrows moved).symm.trans ?_)
      rw [hwritten ho]
      exact hrows calls
    rw [hmoved, hsame, ← hconstant]
  · obtain ⟨hstore, hupdate⟩ := not_or.mp ho
    rw [hmoved, hconstant, sql_withRows _ _ p hstore hupdate, sql_withRows _ _ p hstore hupdate]

/-- **One statement, one escaper, but for the rows.** In every statement the texts of the values of
conditions and of the default values of columns are quoted by the last escaper, and apart from them
the statement does not depend on it. A run in which the escaper is changed ends in the query of the
run in which the last escaper is there from the start, up to the rows; and each of the rows is
written in the style in which it was added. So the changes of the escaper can be moved about: every
statement stays the same, an insertion or an update if its rows are added in the same styles. -/
theorem query_of_escapers (d : Dialect) (e : Escaper) (calls : List Call) :
    let start : Session := { query := .withEscaper d e }
    let last := (calls.filterMap Call.escaper?).getLastD e
    let others := calls.filter fun c => c.escaper?.isNone
    let q := (start.run calls).query
    (∀ o p text, o ≠ .truncate → ((start.run calls).perform (.build o p)).1 = .ok (some text) →
      ∃ pieces,
        quotedTexts pieces = (q.fragments.outline.pending o).flatMap (Literal.quoted d) ∧
        text = replace tablePlaceholder q.tablePrefix (writePieces last pieces) ∧
        ∀ e', (q.escapedBy e').sql o p =
          .ok (replace tablePlaceholder q.tablePrefix (writePieces e' pieces))) ∧
      q.style = ⟨d, last⟩ ∧
      q = (Session.run { query := .withEscaper d last } others).query.withRows q.fragments.rows ∧
      writeRows (start.writtenRows calls) = .ok q.fragments.rows ∧
      ∀ moved : List Call, moved.filterMap Call.escaper? = calls.filterMap Call.escaper? →
        (moved.filter fun c => c.escaper?.isNone) = others →
        ∀ o p, (o = .store ∨ o = .update → start.writtenRows moved = start.writtenRows calls) →
          ((start.run moved).perform (.build o p)).1 =
            ((start.run calls).perform (.build o p)).1 := by
  intro start last others q
  have hstyle : q.style = ⟨d, last⟩ := style_run start calls
  refine ⟨fun o p text ho h => ?_, hstyle, query_eq_constant d e calls,
    writeRows_writtenRows (s := start) rfl calls, fun moved hescapers hothers o p hwritten => ?_⟩
  · rw [perform_build_answer] at h
    obtain ⟨text', hsql, htext⟩ := exists_of_map_eq_ok h
    obtain rfl := Option.some.inj htext
    obtain ⟨pieces, htexts, hwrite⟩ := Query.exists_pieces ho hsql
    have hd : q.dialect = d := congrArg Style.dialect hstyle
    have hself : q.escapedBy last = q := by
      have hlast : q.style.escaper = last := congrArg Style.escaper hstyle
      rw [← hlast]
      rfl
    refine ⟨pieces, hd ▸ htexts, ?_, hwrite⟩
    have hown := hwrite last
    rw [hself] at hown
    exact Except.ok.inj (hsql.symm.trans hown)
  · exact build_eq_of_moved hescapers hothers hwritten

/-- A row that was added before the escaper was changed is written by the escaper before. -/
theorem store_after_setEscaper :
    let start : Session := { query := .ofDialect .postgresql }
    let row : Call := .values [.text "a"]
    let escaper : Call := .setEscaper .bracketed
    ((start.run [.table "t", row, escaper]).perform .store).1 =
        .ok (some "INSERT INTO t VALUES ('a')") ∧
      ((start.run [.table "t", escaper, row]).perform .store).1 =
        .ok (some "INSERT INTO t VALUES ('[a]')") ∧
      (start.run [.table "t", row, escaper]).query.style.quote "a" = "'[a]'" := by
  intro start row escaper
  exact ⟨by decide, by decide, by decide⟩

end Session

end DialectSql
