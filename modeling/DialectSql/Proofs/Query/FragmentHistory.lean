import DialectSql.Proofs.Query.ConditionHistory
import DialectSql.Proofs.Query.Edit
import DialectSql.Proofs.Query.Portability

/-!
# The fragments as the history of calls

What a query has accumulated can be told from the calls that were accepted since the fragments were
last cleared (`Session.sinceCleared`). Each fragment has calls of its own, and `Call.given` is what
a call gives for its fragment. `Fragments.ofHistory` puts the fragments together from what the calls
have given: of some fragments the last call counts, of others all calls in their order, and the
terms of conditions start anew at each call that replaces them.

One accepted call adds to the history what it changes in the fragments (`ofHistory_of_edits`), so
the two stay in step along every run (`Session.fragments_run`). No fragment depends on the calls of
another one, so it does not matter how calls on different fragments are interleaved
(`ofHistory_eq_of_slots`). The main statement `fragments_of_history` says both of all runs in which
the escaper does not change.
-/

set_option autoImplicit false

namespace DialectSql

open Text

/-! ## What the calls give -/

/-- The fragments of a query. -/
inductive Slot where
  | table
  | distinct
  | keys
  | rows
  | condition
  | joins
  | usingColumns
  | joinCondition
  | groupBy
  | having
  | orderBy
  | columns
deriving DecidableEq, Repr

/-- What one call gives for a fragment: lists of items as SQL already, and a term of a condition
with how it is put to those already there. -/
@[reducible]
def Slot.Content : Slot → Type
  | table => String
  | distinct => Unit
  | keys | rows | usingColumns | groupBy | having | orderBy => List String
  | condition => Attachment × Condition
  | joins => Join
  | joinCondition => Attachment × String
  | columns => Column

/-- What has been given for a fragment. -/
abbrev Given : Type := (slot : Slot) × slot.Content

/-- What has been given for this fragment, if it was for this one. -/
@[simp]
def Slot.content? (slot : Slot) (g : Given) : Option slot.Content :=
  if h : g.1 = slot then some (h ▸ g.2) else none

namespace Call

/-- What a call gives for the fragment that it is on, if it is on one and not refused. -/
def given (st : Style) : Call → Option Given
  | table name => some ⟨.table, trim name⟩
  | distinct => some ⟨.distinct, ()⟩
  | keys expressions => (st.dialect.keys expressions).toOption.map (⟨.keys, ·⟩)
  | values row => (st.literals row).toOption.map (⟨.rows, ·⟩)
  | restrict a name operator operand =>
      (Condition.ofText name operator operand).toOption.map (⟨.condition, a, ·⟩)
  | restrictGroup a left connective right =>
      (Condition.groupOf left connective right).toOption.map (⟨.condition, a, ·⟩)
  | join type name label =>
      ((JoinType.parse type).bind fun t => Join.make t name label).toOption.map (⟨.joins, ·⟩)
  | usingColumns columns => some ⟨.usingColumns, columns.map st.dialect.identifier⟩
  | joinWhere a first operator second =>
      (JoinCondition.term first operator second).toOption.map (⟨.joinCondition, a, ·⟩)
  | groupBy columns => some ⟨.groupBy, columns.map st.dialect.identifier⟩
  | having clauses => some ⟨.having, clauses.map trim⟩
  | orderBy columns directions =>
      (st.dialect.orderItems columns directions).toOption.map (⟨.orderBy, ·⟩)
  | column definition => some ⟨.columns, definition⟩
  | _ => none

/-- What a call gives for one of the fragments. -/
@[simp]
def givenFor (st : Style) (slot : Slot) (c : Call) : Option slot.Content :=
  (c.given st).bind slot.content?

/-- The fragment that a call is on. Settings, resets and builds are on none. -/
def slot? : Call → Option Slot
  | table _ => some .table
  | distinct => some .distinct
  | keys _ => some .keys
  | values _ => some .rows
  | restrict .. | restrictGroup .. => some .condition
  | join .. => some .joins
  | usingColumns _ => some .usingColumns
  | joinWhere .. => some .joinCondition
  | orderBy .. => some .orderBy
  | groupBy _ => some .groupBy
  | having _ => some .having
  | column _ => some .columns
  | _ => none

/-- Whether a call is on a fragment. -/
def isOn (slot : Slot) (c : Call) : Bool := c.slot? == some slot

/-- What a call gives is for the fragment that the call is on. -/
theorem slot?_of_given {st : Style} {c : Call} {g : Given} (h : c.given st = some g) :
    c.slot? = some g.1 := by
  have hmap {α : Type} {f : α → Given} {x : Option α} {slot : Slot} (hx : x.map f = some g)
      (hf : ∀ a, (f a).1 = slot) : some slot = some g.1 := by
    obtain ⟨a, -, rfl⟩ := Option.map_eq_some_iff.mp hx
    rw [hf]
  have hsome {f : Given} (hf : some f = some g) : some f.1 = some g.1 :=
    congrArg (Option.map Sigma.fst) hf
  cases c <;> rw [given] at h
  all_goals first
    | exact hmap h fun _ => rfl
    | exact hsome h
    | cases h

theorem slot?_of_edit {c : Call} {st : Style} (h : c.edit st = none) : c.slot? = none := by
  cases c with
  | setEscaper e => rfl
  | setTablePrefix text => rfl
  | setAutoReset enabled => rfl
  | reset deep => rfl
  | build o p => rfl
  | buildNamed text p => rfl
  | _ => cases h

end Call

/-! ## The fragments of a history -/

/-- What the calls of a history give for a fragment, in their order. -/
def contents (st : Style) (cs : List Call) (slot : Slot) : List slot.Content :=
  cs.filterMap (Call.givenFor st slot)

/-- What a call gives comes last among the contents of its fragment. -/
@[simp] theorem contents_concat (st : Style) (cs : List Call) (c : Call) (slot : Slot) :
    contents st (cs ++ [c]) slot = contents st cs slot ++ (c.givenFor st slot).toList := by
  rw [contents, List.filterMap_append, contents]
  refine congrArg (_ ++ ·) ?_
  cases h : c.givenFor st slot with
  | none =>
    rw [List.filterMap_cons_none h]
    rfl
  | some x =>
    rw [List.filterMap_cons_some h]
    rfl

/-- A call gives nothing for a fragment that it is not on. -/
theorem givenFor_eq_none {c : Call} {slot : Slot} (h : c.isOn slot = false) (st : Style) :
    c.givenFor st slot = none := by
  rw [Call.givenFor]
  cases hgiven : c.given st with
  | none => rfl
  | some g =>
    refine dif_neg fun hslot => ?_
    rw [Call.isOn, Call.slot?_of_given hgiven, hslot, beq_self_eq_true] at h
    cases h

/-- Only the calls on a fragment give something for it. -/
theorem contents_filter (st : Style) (cs : List Call) (slot : Slot) :
    contents st (cs.filter (Call.isOn slot)) slot = contents st cs slot := by
  rw [contents, List.filterMap_filter]
  refine congrArg (List.filterMap · cs) (funext fun c => ?_)
  cases h : c.isOn slot with
  | true => rfl
  | false => exact (givenFor_eq_none h st).symm

namespace Fragments

/-- The fragments that a history of accepted calls leaves. -/
def ofHistory (st : Style) (cs : List Call) : Fragments where
  table := (contents st cs .table).getLast?
  distinct := contents st cs .distinct ≠ []
  keys := (contents st cs .keys).getLastD []
  rows := contents st cs .rows
  condition := (contents st cs .condition).foldl (fun root (a, c) => some (a.attach root c)) none
  joins := contents st cs .joins
  usingColumns := (contents st cs .usingColumns).getLastD []
  joinCondition := (contents st cs .joinCondition).foldl (fun j (a, t) => j.attach a t) .none
  groupBy := (contents st cs .groupBy).getLastD []
  having := (contents st cs .having).getLastD []
  orderBy := (contents st cs .orderBy).getLastD []
  columns := contents st cs .columns

/-- The fragments depend on what has been given for each of them only. -/
theorem ofHistory_congr {st : Style} {cs cs' : List Call}
    (h : ∀ slot, contents st cs slot = contents st cs' slot) :
    ofHistory st cs = ofHistory st cs' := by
  have hcontents : contents st cs = contents st cs' := funext h
  rw [ofHistory, hcontents, ofHistory]

/-- A call that is on no fragment leaves no trace. -/
theorem ofHistory_of_slot_eq_none (st : Style) (cs : List Call) {c : Call} (h : c.slot? = none) :
    ofHistory st (cs ++ [c]) = ofHistory st cs := by
  refine ofHistory_congr fun slot => ?_
  have hoff : c.isOn slot = false := by rw [Call.isOn, h]; rfl
  rw [contents_concat, givenFor_eq_none hoff, Option.toList_none, List.append_nil]

/-- It does not matter how calls on different fragments are interleaved. -/
theorem ofHistory_eq_of_slots {st : Style} {cs cs' : List Call}
    (h : ∀ slot, cs.filter (Call.isOn slot) = cs'.filter (Call.isOn slot)) :
    ofHistory st cs = ofHistory st cs' := by
  refine ofHistory_congr fun slot => ?_
  rw [← contents_filter st cs, h, contents_filter]

theorem toOption_of_eq_ok {α : Type} {x : Except Error α} {a : α} (h : x = .ok a) :
    x.toOption = some a := by
  rw [h]
  rfl

theorem toOption_of_join {type name : String} {label : Option String} {t : JoinType} {j : Join}
    (ht : JoinType.parse type = .ok t) (hj : Join.make t name label = .ok j) :
    ((JoinType.parse type).bind fun t => Join.make t name label).toOption = some j := by
  rw [ht]
  exact toOption_of_eq_ok hj

/-- One accepted call changes the fragments as it adds to the history. -/
theorem ofHistory_of_edits {st : Style} {c : Call} {change : Fragments → Fragments}
    (h : c.Edits st change) (cs : List Call) :
    ofHistory st (cs ++ [c]) = change (ofHistory st cs) := by
  -- By `contents_concat` the call adds its content to one fragment and nothing to the others.
  cases h with
  | table hname =>
    obtain ⟨rfl, -⟩ := nonblank?_eq_some_iff.mp hname
    simp [ofHistory, Call.given]
  | distinct => simp [ofHistory, Call.given]
  | keys hks => simp [ofHistory, Call.given, toOption_of_eq_ok hks]
  | values hne hcells => simp [ofHistory, Call.given, toOption_of_eq_ok hcells]
  | restrict hc => simp [ofHistory, Call.given, toOption_of_eq_ok hc]
  | restrictGroup hc => simp [ofHistory, Call.given, toOption_of_eq_ok hc]
  | join ht hj => simp [ofHistory, Call.given, toOption_of_join ht hj]
  | usingColumns hitems =>
    obtain rfl := Dialect.eq_map_of_columnList hitems
    simp [ofHistory, Call.given]
  | joinWhere hterm => simp [ofHistory, Call.given, toOption_of_eq_ok hterm]
  | orderBy hitems => simp [ofHistory, Call.given, toOption_of_eq_ok hitems]
  | groupBy hitems =>
    obtain rfl := Dialect.eq_map_of_columnList hitems
    simp [ofHistory, Call.given]
  | having hclauses => simp [ofHistory, Call.given]
  | column hvalid => simp [ofHistory, Call.given]

end Fragments

/-! ## The text of the terms of joins -/

/-- The terms in order, from the second one on with their connectives in front; no text if there are
none. -/
def joinText : List (Attachment × String) → Option String
  | [] => none
  | (_, first) :: further => some (first ++ String.join (further.map fun (a, t) => a.link ++ t))

/-- The text to which a further term was added. -/
def furtherTerm (written : Option String) (k : Connective) (term : String) : String :=
  (written.map (· ++ (Attachment.join k).link)).getD "" ++ term

/-- A further term stands behind the text of the earlier ones. -/
theorem joinText_concat (terms : List (Attachment × String)) (k : Connective) (term : String) :
    joinText (terms ++ [(.join k, term)]) = some (furtherTerm (joinText terms) k term) := by
  cases terms with
  | nil => simp [joinText, furtherTerm]
  | cons first further => simp [joinText, furtherTerm, String.append_assoc]

/-- A term that is pushed is written behind the text that there is. -/
theorem JoinCondition.render?_push (j : JoinCondition) (k : Connective) (term : String) :
    (j.push k term).render? = some (furtherTerm j.render? k term) := by
  cases j with
  | none => simp [push, render?, furtherTerm]
  | terms first rest => simp [push, render?, furtherTerm, Attachment.link, String.append_assoc]

/-- Only the terms from the last one that replaces the others are written. -/
theorem render?_foldl_attach (terms : List (Attachment × String)) :
    (terms.foldl (fun j (a, t) => j.attach a t) JoinCondition.none).render? =
      joinText (fromLast (fun (a, _) => a == .replace) terms) := by
  induction terms using List.reverseRecOn with
  | nil => rfl
  | append_singleton terms last ih =>
    obtain ⟨a, t⟩ := last
    rw [List.foldl_append, fromLast_concat]
    cases a with
    | replace => simp [JoinCondition.attach, JoinCondition.render?, joinText]
    | join k =>
      show (JoinCondition.push k t _).render? = joinText (_ ++ [(.join k, t)])
      rw [JoinCondition.render?_push, joinText_concat, ih]

/-! ## Queries with the same fragments -/

namespace Query

variable {q q' : Query}

theorem eq_of_settings (hstyle : q'.style = q.style) (hnames : q'.tablePrefix = q.tablePrefix)
    (hauto : q'.autoReset = q.autoReset) (hfragments : q'.fragments = q.fragments) : q' = q := by
  cases q
  cases q'
  simp_all

/-- Whether the fragments are cleared afterwards does not matter for a text. -/
theorem sql_congr (hstyle : q'.style = q.style) (hnames : q'.tablePrefix = q.tablePrefix)
    (hfragments : q'.fragments = q.fragments) (o : Operation) (p : Parameters) :
    q'.sql o p = q.sql o p := by
  have hquery : { q' with autoReset := q.autoReset } = q :=
    eq_of_settings hstyle hnames rfl hfragments
  rw [← hquery]
  cases o <;> rfl

end Query

namespace Session

/-! ## Runs -/

theorem perform_build_congr {s s' : Session} (h : s.query = s'.query) (o : Operation)
    (p : Parameters) :
    (s.perform (.build o p)).1 = (s'.perform (.build o p)).1 ∧
      (s.perform (.build o p)).2.query = (s'.perform (.build o p)).2.query := by
  rw [perform_build, perform_build, h]
  cases s'.query.sql o p with
  | error e => exact ⟨rfl, h⟩
  | ok sql =>
    refine ⟨rfl, ?_⟩
    show (if s.query.autoReset then { s.query with fragments := {} } else s.query : Query) = _
    rw [h]
    rfl

theorem perform_setting_congr {s s' : Session} (h : s.query = s'.query) {c : Call}
    {g : Query → Query} (hg : c.setting = some g) :
    (s.perform c).1 = (s'.perform c).1 ∧ (s.perform c).2.query = (s'.perform c).2.query := by
  rw [perform_of_setting hg, perform_of_setting hg, h]
  exact ⟨rfl, rfl⟩

/-- What was reported earlier has no influence on a call. -/
theorem perform_congr {s s' : Session} (h : s.query = s'.query) (c : Call) :
    (s.perform c).1 = (s'.perform c).1 ∧ (s.perform c).2.query = (s'.perform c).2.query := by
  -- A call on the fragments is told by its edit; what is left are settings, resets and builds.
  cases hedit : c.edit s.query.style with
  | some r =>
    rw [perform_of_edit hedit, perform_of_edit (h ▸ hedit)]
    cases r with
    | error e => exact ⟨rfl, h⟩
    | ok f => exact ⟨rfl, by rw [edited, edited, withEdit, withEdit, h]⟩
  | none =>
    cases c with
    | setEscaper e => exact perform_setting_congr h rfl
    | setTablePrefix text => exact perform_setting_congr h rfl
    | setAutoReset enabled => exact perform_setting_congr h rfl
    | reset deep => exact ⟨rfl, by rw [perform_reset, perform_reset, h]⟩
    | build o p => exact perform_build_congr h o p
    | buildNamed text p =>
      rw [perform_buildNamed, perform_buildNamed]
      cases Operation.ofText? text with
      | none => exact ⟨rfl, h⟩
      | some o => exact perform_build_congr h o p
    | _ => cases hedit

/-- Sessions with one query have one query after a run. -/
theorem run_congr {s s' : Session} (h : s.query = s'.query) (calls : List Call) :
    (s.run calls).query = (s'.run calls).query := by
  induction calls generalizing s s' with
  | nil => exact h
  | cons c calls ih => exact ih (perform_congr h c).2

/-- The style stays as it is unless another escaper is set. -/
theorem style_run_eq {s : Session} {calls : List Call}
    (hfixed : ∀ c ∈ calls, ∀ e ∈ c.escaper?, e = s.query.style.escaper) :
    (s.run calls).query.style = s.query.style := by
  rw [style_run, List.getLastD_eq_getLast?]
  cases hlast : (calls.filterMap Call.escaper?).getLast? with
  | none => rfl
  | some e =>
    obtain ⟨c, hc, he⟩ := List.mem_filterMap.mp (List.mem_of_getLast? hlast)
    rw [Option.getD_some, hfixed c hc e he]
    rfl

/-- One call keeps the fragments in step with the history. -/
theorem fragments_perform {s : Session} {calls : List Call}
    (h : (s.run calls).query.fragments =
      .ofHistory (s.run calls).query.style (s.sinceCleared calls)) (c : Call) :
    (s.run (calls ++ [c])).query.fragments =
      .ofHistory (s.run calls).query.style (s.sinceCleared (calls ++ [c])) := by
  rw [run_concat, sinceCleared_concat]
  cases hclears : (s.run calls).clears c with
  | true =>
    rw [if_pos rfl, fragments_perform_of_clears hclears]
    rfl
  | false =>
    rw [if_neg Bool.false_ne_true]
    cases hedit : c.edit (s.run calls).query.style with
    | none =>
      rcases fragments_perform_of_not_clears hclears with hsame | ⟨f, hf, -⟩
      · rw [hsame, h]
        split
        · exact (Fragments.ofHistory_of_slot_eq_none _ _ (Call.slot?_of_edit hedit)).symm
        · rfl
      · rw [hedit] at hf
        cases hf
    | some r =>
      rw [perform_of_edit hedit]
      cases r with
      | error e => exact h
      | ok f =>
        show f (s.run calls).query.fragments = .ofHistory _ (s.sinceCleared calls ++ [c])
        rw [Fragments.ofHistory_of_edits (Call.edits_of_edit hedit), h]

/-- After every run in which the escaper stays the same, the fragments are those of the history. -/
theorem fragments_run {s : Session} (hs : s.query.fragments = {}) {calls : List Call}
    (hfixed : ∀ c ∈ calls, ∀ e ∈ c.escaper?, e = s.query.style.escaper) :
    (s.run calls).query.fragments = .ofHistory s.query.style (s.sinceCleared calls) := by
  -- Whether the history starts anew is told by the last call, so the run is taken apart from the
  -- end.
  induction calls using List.reverseRecOn with
  | nil =>
    rw [run_nil, hs]
    rfl
  | append_singleton calls c ih =>
    have hbefore := fun c hc => hfixed c (List.mem_append_left _ hc)
    have hstyle := style_run_eq hbefore
    rw [fragments_perform (by rw [hstyle, ih hbefore]), hstyle]

/-- **The fragments are the history of the calls on them.** After every run in which the escaper
stays the same, the fragments are made of the calls that were accepted since they were last cleared:
the table, the keys, the shared columns, the groups, their conditions and the order are those of the
last call on them, the rows, the joins and the columns are those of all calls, duplicates are left
out if any call says so, and the condition of the joins has the terms from the last one on that
replaces the others. So two runs whose calls on each single fragment are the same ones leave the
same fragments, however the calls on different fragments are interleaved, and what is built then or
after further calls is the same. -/
theorem fragments_of_history (s : Session) (hs : s.query.fragments = {}) (calls : List Call)
    (hfixed : ∀ c ∈ calls, ∀ e ∈ c.escaper?, e = s.query.style.escaper) :
    let q := (s.run calls).query
    let history := s.sinceCleared calls
    q.fragments = .ofHistory s.query.style history ∧
      q.fragments.joinCondition.render? =
        joinText (fromLast (fun (a, _) => a == .replace)
          (contents s.query.style history .joinCondition)) ∧
      ∀ (s' : Session) (calls' : List Call), s'.query.fragments = {} →
        s'.query.style = s.query.style →
        (∀ c ∈ calls', ∀ e ∈ c.escaper?, e = s.query.style.escaper) →
        (∀ slot, (s'.sinceCleared calls').filter (Call.isOn slot) =
          history.filter (Call.isOn slot)) →
        let q' := (s'.run calls').query
        q'.fragments = q.fragments ∧
          (q'.tablePrefix = q.tablePrefix → ∀ o p,
            ((s'.run calls').perform (.build o p)).1 = ((s.run calls).perform (.build o p)).1) ∧
          (q'.tablePrefix = q.tablePrefix → q'.autoReset = q.autoReset → ∀ later c,
            ((s'.run (calls' ++ later)).perform c).1 =
              ((s.run (calls ++ later)).perform c).1) := by
  intro q history
  have hq : q.fragments = .ofHistory s.query.style history := fragments_run hs hfixed
  refine ⟨hq, ?_, ?_⟩
  · rw [hq]
    exact render?_foldl_attach _
  intro s' calls' hs' hstyle' hfixed' hslots q'
  have hq' : q'.fragments = .ofHistory s'.query.style (s'.sinceCleared calls') :=
    fragments_run hs' (by rwa [hstyle'])
  have hfragments : q'.fragments = q.fragments := by
    rw [hq, hq', hstyle', Fragments.ofHistory_eq_of_slots hslots]
  have hstyle : q'.style = q.style := by
    rw [style_run_eq hfixed, style_run_eq (by rwa [hstyle']), hstyle']
  refine ⟨hfragments, fun hnames o p => ?_, fun hnames hauto later c => ?_⟩
  · rw [perform_build_answer, perform_build_answer]
    exact congrArg (Except.map some) (Query.sql_congr hstyle hnames hfragments o p)
  · have hquery : q' = q := Query.eq_of_settings hstyle hnames hauto hfragments
    rw [run_append, run_append]
    exact (perform_congr (run_congr hquery later) c).1

/-- A refused call, fragments that were cleared and another interleaving leave no trace. -/
theorem fragments_of_history_interleaved :
    let s : Session := { query := .ofDialect .postgresql }
    let calls := [.table "t", .keys ["a"], .joinWhere (.join .or) "t.x" "=" "u.x",
      .joinWhere .replace "t.id" "=" "u.t", .orderBy ["a"] [], .join "left" "u" none,
      .joinWhere (.join .and) "t.n" "<" "u.n", .orderBy ["b"] ["desc"]]
    let calls' := [.distinct, .reset false, .join "left" "u" none, .orderBy ["a"] [],
      .orderBy ["b"] ["desc"], .joinWhere (.join .or) "t.x" "=" "u.x", .keys ["a"], .keys [" "],
      .joinWhere .replace "t.id" "=" "u.t", .joinWhere (.join .and) "t.n" "<" "u.n", .table "t"]
    let q := (s.run calls).query
    s.query.fragments = {} ∧ (∀ c ∈ calls, ∀ e ∈ c.escaper?, e = s.query.style.escaper) ∧
      (∀ c ∈ calls', ∀ e ∈ c.escaper?, e = s.query.style.escaper) ∧
      (∀ slot, (s.sinceCleared calls').filter (Call.isOn slot) =
        (s.sinceCleared calls).filter (Call.isOn slot)) ∧
      q.fragments = .ofHistory s.query.style calls ∧
      q.fragments.joinCondition.render? = some "t.id=u.t AND t.n<u.n" ∧
      ((s.run calls').perform (.get 0 0)).1 = ((s.run calls).perform (.get 0 0)).1 ∧
      ((s.run calls).perform (.get 0 0)).1 =
        .ok (some "SELECT a FROM t LEFT JOIN u ON t.id=u.t AND t.n<u.n ORDER BY b DESC") := by
  intro s calls calls' q
  have hfixed : ∀ c ∈ calls, ∀ e ∈ c.escaper?, e = s.query.style.escaper := by
    simp [calls, Call.escaper?]
  have hfixed' : ∀ c ∈ calls', ∀ e ∈ c.escaper?, e = s.query.style.escaper := by
    simp [calls', Call.escaper?]
  have hcalls : s.sinceCleared calls = calls := by rfl
  have hcalls' : s.sinceCleared calls' = [.join "left" "u" none, .orderBy ["a"] [],
      .orderBy ["b"] ["desc"], .joinWhere (.join .or) "t.x" "=" "u.x", .keys ["a"],
      .joinWhere .replace "t.id" "=" "u.t", .joinWhere (.join .and) "t.n" "<" "u.n",
      .table "t"] := by rfl
  have hslots : ∀ slot, (s.sinceCleared calls').filter (Call.isOn slot) =
      (s.sinceCleared calls).filter (Call.isOn slot) := by
    intro slot
    rw [hcalls, hcalls']
    cases slot <;> rfl
  obtain ⟨hfragments, htext, hinterleaved⟩ := fragments_of_history s rfl calls hfixed
  obtain ⟨-, hbuild, -⟩ := hinterleaved s calls' rfl rfl hfixed' hslots
  have hterms : joinText (fromLast (fun (a, _) => a == .replace)
      (contents s.query.style (s.sinceCleared calls) .joinCondition)) =
        some "t.id=u.t AND t.n<u.n" := by decide
  rw [hterms] at htext
  rw [hcalls] at hfragments
  exact ⟨rfl, hfixed, hfixed', hslots, hfragments, htext, hbuild (by rfl) .get _, by decide⟩

end Session

end DialectSql
