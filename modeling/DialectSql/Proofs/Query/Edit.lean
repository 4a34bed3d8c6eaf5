import DialectSql.Proofs.Query.Outcome

/-!
# What an accepted call does to the fragments

`Call.edit` gives the change of a call on the fragments, or the error with which the call is
refused. `Call.Edits` says the same of the accepted calls alone, one case for each of them: the
change, and what the call has checked before it makes the change. Whatever holds of all accepted
calls is proved by the cases of `Call.Edits`, which `Call.edits_of_edit` provides.
-/

set_option autoImplicit false

namespace DialectSql

open Text

namespace Call

/-- The change that an accepted call makes under a style, with what the call has checked. -/
inductive Edits (st : Style) : Call → (Fragments → Fragments) → Prop where
  | table {name n : String} (h : nonblank? name = some n) :
      Edits st (.table name) fun f => { f with table := some n }
  | distinct : Edits st .distinct fun f => { f with distinct := true }
  | keys {expressions ks : List String} (h : st.dialect.keys expressions = .ok ks) :
      Edits st (.keys expressions) fun f => { f with keys := ks }
  | values {row : List Literal} {cells : List String} (hne : row ≠ [])
      (h : st.literals row = .ok cells) :
      Edits st (.values row) fun f => { f with rows := f.rows ++ [cells] }
  | restrict {a : Attachment} {column operator : String} {operand : Operand} {c : Condition}
      (h : Condition.ofText column operator operand = .ok c) :
      Edits st (.restrict a column operator operand) fun f =>
        { f with condition := some (a.attach f.condition c) }
  | restrictGroup {a : Attachment} {left right : ConditionSource} {connective : String}
      {c : Condition} (h : Condition.groupOf left connective right = .ok c) :
      Edits st (.restrictGroup a left connective right) fun f =>
        { f with condition := some (a.attach f.condition c) }
  | join {type table : String} {label : Option String} {t : JoinType} {j : Join}
      (ht : JoinType.parse type = .ok t) (h : Join.make t table label = .ok j) :
      Edits st (.join type table label) fun f => { f with joins := f.joins ++ [j] }
  | usingColumns {columns items : List String}
      (h : st.dialect.columnList .usingColumns columns = .ok items) :
      Edits st (.usingColumns columns) fun f => { f with usingColumns := items }
  | joinWhere {a : Attachment} {first operator second term : String}
      (h : JoinCondition.term first operator second = .ok term) :
      Edits st (.joinWhere a first operator second) fun f =>
        { f with joinCondition := f.joinCondition.attach a term }
  | orderBy {columns directions items : List String}
      (h : st.dialect.orderItems columns directions = .ok items) :
      Edits st (.orderBy columns directions) fun f => { f with orderBy := items }
  | groupBy {columns items : List String}
      (h : st.dialect.columnList .groupBy columns = .ok items) :
      Edits st (.groupBy columns) fun f => { f with groupBy := items }
  | having {clauses : List String} (h : ∀ c ∈ clauses, trim c ≠ "") :
      Edits st (.having clauses) fun f => { f with having := clauses.map trim }
  | column {definition : Column} (h : definition.validate = .ok ()) :
      Edits st (.column definition) fun f => { f with columns := f.columns ++ [definition] }

/-- An accepted call makes one of these changes. -/
theorem edits_of_edit {st : Style} {c : Call} {f : Fragments → Fragments}
    (h : c.edit st = some (.ok f)) : c.Edits st f := by
  cases c with
  | table name =>
    have h := Option.some.inj h
    split at h
    · next n hn =>
      cases h
      exact .table hn
    · cases h
  | distinct =>
    cases h
    exact .distinct
  | keys expressions =>
    obtain ⟨ks, hks, rfl⟩ := exists_of_map_eq_ok (Option.some.inj h)
    exact .keys hks
  | values row =>
    have h := Option.some.inj h
    split at h
    · cases h
    · next hne =>
      obtain ⟨cells, hcells, rfl⟩ := exists_of_map_eq_ok h
      exact .values hne hcells
  | restrict a column operator operand =>
    obtain ⟨condition, hcondition, rfl⟩ := exists_of_map_eq_ok (Option.some.inj h)
    exact .restrict hcondition
  | restrictGroup a left connective right =>
    obtain ⟨condition, hcondition, rfl⟩ := exists_of_map_eq_ok (Option.some.inj h)
    exact .restrictGroup hcondition
  | join type table label =>
    obtain ⟨j, hj, rfl⟩ := exists_of_map_eq_ok (Option.some.inj h)
    obtain ⟨t, ht, hmake⟩ := exists_of_bind_eq_ok hj
    exact .join ht hmake
  | usingColumns columns =>
    obtain ⟨items, hitems, rfl⟩ := exists_of_map_eq_ok (Option.some.inj h)
    exact .usingColumns hitems
  | joinWhere a first operator second =>
    obtain ⟨term, hterm, rfl⟩ := exists_of_map_eq_ok (Option.some.inj h)
    exact .joinWhere hterm
  | orderBy columns directions =>
    obtain ⟨items, hitems, rfl⟩ := exists_of_map_eq_ok (Option.some.inj h)
    exact .orderBy hitems
  | groupBy columns =>
    obtain ⟨items, hitems, rfl⟩ := exists_of_map_eq_ok (Option.some.inj h)
    exact .groupBy hitems
  | having clauses =>
    have h := Option.some.inj h
    split at h
    · cases h
    · next hnone =>
      cases h
      refine .having fun c hc hblank => hnone (Or.inr ?_)
      exact List.any_eq_true.mpr ⟨c, hc, by simpa using hblank⟩
  | column definition =>
    obtain ⟨checked, hchecked, rfl⟩ := exists_of_map_eq_ok (Option.some.inj h)
    exact .column hchecked
  | setEscaper e => cases h
  | setTablePrefix text => cases h
  | setAutoReset enabled => cases h
  | reset deep => cases h
  | build o p => cases h
  | buildNamed text p => cases h

end Call

end DialectSql
