import DialectSql.Proofs.Query.Restriction
import Mathlib.Data.List.DropRight

/-!
# The condition as the history of calls

The condition of a query is a tree that calls replace, extend and clear. Its text can be told
without the tree, from the calls alone: `Session.restrictions` lists the calls of a run that put a
condition to the fragments and still count, and `conditionText` writes one piece for each of them.

A condition `Accumulates` a list of calls if it has the text of the list under every style. A call
that replaces the condition or is joined to it keeps this (`Accumulates.single`,
`Accumulates.concat`), all other calls leave both sides alone, and so it holds along every run
(`Session.accumulates_run`). The main statement `condition_of_history` says it of the statements
that have a condition.
-/

set_option autoImplicit false

namespace DialectSql

/-! ## Lists from the last element of a kind on -/

/-- The elements from the last one of a kind on; all of them if none is of that kind. -/
def fromLast {α : Type} (p : α → Bool) (xs : List α) : List α :=
  (xs.rdropWhile (! p ·)).getLast?.toList ++ xs.rtakeWhile (! p ·)

/-- A last element of the kind starts anew, and another one goes on. -/
theorem fromLast_concat {α : Type} (p : α → Bool) (xs : List α) (x : α) :
    fromLast p (xs ++ [x]) = if p x then [x] else fromLast p xs ++ [x] := by
  cases hx : p x with
  | true => simp [fromLast, hx]
  | false => simp [fromLast, hx]

/-- Of these elements only the first can be of the kind. -/
theorem eq_false_of_mem_tail_fromLast {α : Type} {p : α → Bool} {xs : List α} {x : α}
    (h : x ∈ (fromLast p xs).tail) : p x = false := by
  have hx : x ∈ xs.rtakeWhile (! p ·) := by
    rw [fromLast] at h
    cases hlast : (xs.rdropWhile (! p ·)).getLast? with
    | none =>
      rw [hlast] at h
      exact List.mem_of_mem_tail h
    | some y =>
      rw [hlast] at h
      exact h
  simpa using List.mem_rtakeWhile_imp hx

/-! ## The text of a list of calls -/

/-- What stands between a term and those before it. -/
def Attachment.link : Attachment → String
  | replace => ""
  | join k => " " ++ k.keyword ++ " "

namespace Call

/-- How the condition of a call is put to those already there. -/
def attachment : Call → Attachment
  | restrict a _ _ _ | restrictGroup a _ _ _ => a
  | _ => .replace

/-- Whether a call replaces the condition by its own. -/
def replaces (c : Call) : Bool := c.attachment == .replace

/-- The text of the condition that a call gives: a predicate, or two conditions in parentheses.
Other calls give none. -/
def piece (st : Style) : Call → Except Error String
  | restrict _ name operator operand => do
      let o ← Operator.parse operator
      let p ← Predicate.make name o operand
      p.render st
  | restrictGroup _ left connective right => do
      let k ← Connective.parse connective
      let l ← left.condition
      let r ← right.condition
      return "(" ++ (← l.render st) ++ " " ++ k.keyword ++ " " ++ (← r.render st) ++ ")"
  | _ => .ok ""

/-- The text that a call adds to that of the calls before it. -/
def linkedPiece (st : Style) (c : Call) : Except Error String := do
  return c.attachment.link ++ (← c.piece st)

end Call

/-- The pieces of calls in order, from the second one on with their connectives in front; no text if
there are no calls. -/
def conditionText (st : Style) : List Call → Except Error (Option String)
  | [] => .ok none
  | first :: further => do
      let start ← first.piece st
      let rest ← further.mapM (Call.linkedPiece st)
      return some (start ++ String.join rest)

theorem conditionText_single (st : Style) (c : Call) :
    conditionText st [c] = (c.piece st).map some := by
  rw [conditionText]
  cases c.piece st with
  | error e => rfl
  | ok text => exact congrArg (fun t => Except.ok (some t)) (String.append_empty)

/-- One more call adds its connective and its piece. -/
theorem conditionText_concat (st : Style) {cs : List Call} (h : cs ≠ []) (c : Call) :
    conditionText st (cs ++ [c]) = do
      let start ← conditionText st cs
      let next ← c.linkedPiece st
      return start.map (· ++ next) := by
  cases cs with
  | nil => exact absurd rfl h
  | cons first further =>
    simp only [List.cons_append, conditionText, List.mapM_append, List.mapM_cons, List.mapM_nil,
      bind_assoc, pure_bind]
    simp [String.append_assoc]

/-! ## Conditions with the text of calls -/

namespace Call

theorem piece_restrict (st : Style) (a : Attachment) (name operator : String) (operand : Operand) :
    (restrict a name operator operand).piece st =
      Condition.ofText name operator operand >>= fun t => t.render st := by
  rw [piece, Condition.ofText]
  cases Operator.parse operator with
  | error e => rfl
  | ok o =>
    simp only [ok_bind]
    cases Predicate.make name o operand <;> rfl

theorem piece_restrictGroup (st : Style) (a : Attachment) (left : ConditionSource)
    (connective : String) (right : ConditionSource) :
    (restrictGroup a left connective right).piece st =
      Condition.groupOf left connective right >>= fun t => t.render st := by
  rw [piece, Condition.groupOf]
  generalize left.condition = first
  generalize right.condition = second
  cases Connective.parse connective with
  | error e => rfl
  | ok k =>
    cases first with
    | error e => rfl
    | ok l => cases second <;> rfl

end Call

/-- The condition that has the text of a list of calls under every style; there is none for no
calls. -/
def Accumulates (cs : List Call) : Option Condition → Prop
  | none => cs = []
  | some c => cs ≠ [] ∧ ∀ st, conditionText st cs = (c.render st).map some

namespace Accumulates

variable {cs : List Call} {root : Option Condition} {call : Call} {t : Condition}

/-- A condition with the text of a call accumulates this call. -/
theorem single (ht : ∀ st, t.render st = call.piece st) : Accumulates [call] (some t) := by
  refine ⟨List.cons_ne_nil call [], fun st => ?_⟩
  rw [conditionText_single, ht]

/-- A condition that is joined to the others adds its piece to their text. -/
theorem concat (h : Accumulates cs root) (ht : ∀ st, t.render st = call.piece st) {k : Connective}
    (hk : call.attachment = .join k) :
    Accumulates (cs ++ [call]) (some (Condition.extend root k t)) := by
  cases root with
  | none =>
    rw [show cs = [] from h, List.nil_append]
    exact single ht
  | some c =>
    obtain ⟨hne, htext⟩ := h
    refine ⟨by simp, fun st => ?_⟩
    rw [conditionText_concat st hne, htext st, Call.linkedPiece, hk, ← ht st, Condition.extend,
      Condition.render]
    generalize c.render st = written
    generalize t.render st = added
    cases written with
    | error e => rfl
    | ok start =>
      cases added with
      | error e => rfl
      | ok next =>
        refine congrArg (fun text => Except.ok (some text)) ?_
        simp [Attachment.link, String.append_assoc]

end Accumulates

/-! ## Runs -/

namespace Session

/-- The calls of a run, each with the session before it. -/
def steps (s : Session) : List Call → List (Session × Call)
  | [] => []
  | c :: calls => (s, c) :: (s.perform c).2.steps calls

/-- The calls of a run that were not refused, since the fragments were last cleared. -/
def sinceCleared (s : Session) (calls : List Call) : List Call :=
  (((s.steps calls).rtakeWhile fun (t, c) => !t.clears c).filter
    fun (t, c) => (t.perform c).1.isOk).map Prod.snd

/-- The calls of a run that the condition still comes from: the restrictions since the fragments
were last cleared, from the last one on that replaces the condition. -/
def restrictions (s : Session) (calls : List Call) : List Call :=
  fromLast Call.replaces ((s.sinceCleared calls).filter Call.isRestriction)

theorem steps_concat (s : Session) (calls : List Call) (c : Call) :
    s.steps (calls ++ [c]) = s.steps calls ++ [(s.run calls, c)] := by
  induction calls generalizing s with
  | nil => rfl
  | cons first calls ih => rw [List.cons_append, steps, steps, ih, run_cons, List.cons_append]

theorem run_concat (s : Session) (calls : List Call) (c : Call) :
    s.run (calls ++ [c]) = ((s.run calls).perform c).2 := run_append s calls [c]

/-- A last call starts anew, is added, or is refused and does not count. -/
theorem sinceCleared_concat (s : Session) (calls : List Call) (c : Call) :
    s.sinceCleared (calls ++ [c]) =
      if (s.run calls).clears c then []
      else if ((s.run calls).perform c).1.isOk then s.sinceCleared calls ++ [c]
      else s.sinceCleared calls := by
  rw [sinceCleared, steps_concat, List.rtakeWhile_concat]
  cases hclears : (s.run calls).clears c with
  | true => simp [hclears]
  | false =>
    cases hok : ((s.run calls).perform c).1.isOk with
    | true => simp [hclears, hok, sinceCleared]
    | false => simp [hclears, hok, sinceCleared]

theorem restrictions_of_clears {s : Session} {calls : List Call} {c : Call}
    (h : (s.run calls).clears c = true) : s.restrictions (calls ++ [c]) = [] := by
  rw [restrictions, sinceCleared_concat, if_pos h]
  rfl

/-- An accepted restriction comes last, and alone if it replaces the others. -/
theorem restrictions_of_restricts {s : Session} {calls : List Call} {c : Call}
    (h : (s.run calls).restricts c = true) :
    s.restrictions (calls ++ [c]) =
      if c.replaces then [c] else s.restrictions calls ++ [c] := by
  obtain ⟨hok, hc⟩ := Bool.and_eq_true_iff.mp h
  have hclears : (s.run calls).clears c = false := by
    rw [clears, Call.isReset_of_isRestriction hc, Call.building_of_isRestriction hc]
    simp
  rw [restrictions, sinceCleared_concat, hclears, hok, if_neg Bool.false_ne_true, if_pos rfl,
    List.filter_append, List.filter_singleton, hc, cond_true, fromLast_concat]
  rfl

/-- Other calls do not count. -/
theorem restrictions_of_neither {s : Session} {calls : List Call} {c : Call}
    (hclears : (s.run calls).clears c = false) (h : (s.run calls).restricts c = false) :
    s.restrictions (calls ++ [c]) = s.restrictions calls := by
  rw [restrictions, sinceCleared_concat, hclears, if_neg Bool.false_ne_true]
  rcases Bool.and_eq_false_iff.mp h with hok | hc
  · rw [hok, if_neg Bool.false_ne_true]
    rfl
  · split
    · rw [List.filter_append, List.filter_singleton, hc, cond_false, List.append_nil]
      rfl
    · rfl

/-- A restriction puts a condition to the one there is, whose text is the piece of the call. -/
theorem exists_condition_of_restricts {s : Session} {c : Call} (h : s.restricts c = true) :
    ∃ t, (s.perform c).2.query.fragments.condition =
        some (c.attachment.attach s.query.fragments.condition t) ∧
      ∀ st, t.render st = c.piece st := by
  obtain ⟨hok, hc⟩ := Bool.and_eq_true_iff.mp h
  cases c with
  | restrict a name operator operand =>
    have hedit := s.perform_of_edit (c := .restrict a name operator operand) rfl
    rw [hedit] at hok ⊢
    cases ht : Condition.ofText name operator operand with
    | error e =>
      rw [ht] at hok
      cases hok
    | ok t =>
      refine ⟨t, rfl, fun st => ?_⟩
      rw [Call.piece_restrict, ht]
      rfl
  | restrictGroup a left connective right =>
    have hedit := s.perform_of_edit (c := .restrictGroup a left connective right) rfl
    rw [hedit] at hok ⊢
    cases ht : Condition.groupOf left connective right with
    | error e =>
      rw [ht] at hok
      cases hok
    | ok t =>
      refine ⟨t, rfl, fun st => ?_⟩
      rw [Call.piece_restrictGroup, ht]
      rfl
  | _ => cases hc

/-- One call keeps the condition in step with the calls that it comes from. -/
theorem accumulates_perform {s : Session} {calls : List Call}
    (h : Accumulates (s.restrictions calls) (s.run calls).query.fragments.condition) (c : Call) :
    Accumulates (s.restrictions (calls ++ [c]))
      (s.run (calls ++ [c])).query.fragments.condition := by
  rw [run_concat]
  cases hclears : (s.run calls).clears c with
  | true =>
    rw [restrictions_of_clears hclears, fragments_perform_of_clears hclears]
    rfl
  | false =>
    cases hrestricts : (s.run calls).restricts c with
    | false =>
      rw [restrictions_of_neither hclears hrestricts, condition_perform_eq hclears hrestricts]
      exact h
    | true =>
      obtain ⟨t, hcondition, ht⟩ := exists_condition_of_restricts hrestricts
      rw [restrictions_of_restricts hrestricts, hcondition, Call.replaces]
      cases ha : c.attachment with
      | replace => exact .single ht
      | join k => exact h.concat ht ha

/-- After every run the condition has the text of the calls that it comes from. -/
theorem accumulates_run {s : Session} (hs : s.query.fragments.condition = none)
    (calls : List Call) :
    Accumulates (s.restrictions calls) (s.run calls).query.fragments.condition := by
  -- The last call is the one that counts for both sides, so the run is taken apart from the end.
  induction calls using List.reverseRecOn with
  | nil =>
    rw [run_nil, hs]
    rfl
  | append_singleton calls c ih => exact accumulates_perform ih c

/-- All calls behind the first one are joined to those before them. -/
theorem exists_join_of_mem_tail {s : Session} {calls : List Call} {c : Call}
    (h : c ∈ (s.restrictions calls).tail) : ∃ k, c.attachment = .join k := by
  have hreplaces := eq_false_of_mem_tail_fromLast h
  rw [Call.replaces] at hreplaces
  cases ha : c.attachment with
  | replace =>
    rw [ha] at hreplaces
    cases hreplaces
  | join k => exact ⟨k, rfl⟩

/-- A condition that accumulates calls has the text of these calls. -/
theorem conditionSql_of_accumulates {q : Query} {calls : List Call}
    (h : Accumulates calls q.fragments.condition) :
    q.conditionSql = conditionText q.style calls := by
  unfold Query.conditionSql
  cases hcondition : q.fragments.condition with
  | none =>
    rw [hcondition] at h
    rw [show calls = [] from h]
    rfl
  | some c =>
    rw [hcondition] at h
    show (do return some (← c.render q.style)) = conditionText q.style calls
    rw [h.2 q.style]
    cases c.render q.style <;> rfl

/-- **The condition is the history of the calls that restrict the query.** After every run from a
query without a condition, the text of the condition consists of the pieces of the calls that it
comes from, in their order, each but the first behind its connective. Selections, updates and
deletions have this text behind `WHERE`, and nothing there if there is no such call; the rest of
their text does not depend on it. -/
theorem condition_of_history (s : Session) (hs : s.query.fragments.condition = none)
    (calls : List Call) :
    let q := (s.run calls).query
    let text := conditionText q.style (s.restrictions calls)
    (∀ c ∈ (s.restrictions calls).tail, ∃ k, c.attachment = .join k) ∧ q.conditionSql = text ∧
      ∀ o p, Query.restrictable o = true → ∃ r : Except Error (String × String),
        (∀ parts, r = .ok parts → o ≠ .get → parts.2 = "") ∧
          (q.withCondition none).template o p = r.map (framed none) ∧
          q.template o p = text >>= fun w => r.map (framed w) := by
  intro q text
  have hsql : q.conditionSql = text := conditionSql_of_accumulates (accumulates_run hs calls)
  refine ⟨fun c hc => exists_join_of_mem_tail hc, hsql, fun o p ho => ?_⟩
  obtain ⟨r, hlast, hwithout, hwith⟩ := q.exists_template_eq_framed ho p
  exact ⟨r, hlast, hwithout, by rw [hwith, hsql]⟩

/-- A condition that is replaced and a call that is refused leave no trace, and the escaper is the
one at the end. -/
theorem condition_of_history_deletion :
    let s : Session := { query := .ofDialect .postgresql }
    let root := Call.restrict .replace "b" "=" (.scalar (.text "x"))
    let further := Call.restrictGroup (.join .or) (.predicate "c" "=" (.scalar (.int 3))) "and"
      (.predicate "d" "is" (.scalar .null))
    let calls := [.table "t", .restrict (.join .or) "a" "=" (.scalar (.int 1)), root,
      .restrict (.join .and) " " "=" (.scalar .null), further, .setEscaper .bracketed]
    let q := (s.run calls).query
    s.query.fragments.condition = none ∧ q.conditionSql = conditionText q.style [root, further] ∧
      conditionText q.style [root, further] =
        .ok (some "b = '[x]' OR (c = 3 AND d IS NULL)") ∧
      Query.restrictable .delete = true ∧ ∃ r : Except Error (String × String),
        (∀ parts, r = .ok parts → Operation.delete ≠ .get → parts.2 = "") ∧
          (q.withCondition none).template .delete {} = r.map (framed none) ∧
          q.template .delete {} =
            conditionText q.style [root, further] >>= fun w => r.map (framed w) := by
  intro s root further calls q
  have hcalls : s.restrictions calls = [root, further] := by rfl
  have htext : conditionText q.style [root, further] =
      .ok (some "b = '[x]' OR (c = 3 AND d IS NULL)") := by decide
  obtain ⟨-, hsql, hframe⟩ := condition_of_history s rfl calls
  rw [hcalls] at hsql hframe
  exact ⟨rfl, hsql, htext, rfl, hframe .delete {} rfl⟩

end Session

end DialectSql
