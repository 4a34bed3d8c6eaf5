import DialectSql.Proofs.Query.ConditionHistory
import DialectSql.Proofs.Query.WellFormed

/-!
# Where a fault is found

A call is refused if one of its arguments is at fault, so that a statement should be refused only as
a whole, because something is missing or does not fit together. There is one exception. The values
of conditions and the default values of columns are kept as they are until a statement is built
(`Outline.pending`), and a number among them that is not finite is found only then; the values of a
row are written at the call and refused there.

The main statement `refused_builds` says that this is the only exception, and that such a number is
never missed: it makes every statement that needs it fail, whatever else has been called.
-/

set_option autoImplicit false

namespace DialectSql

open Text

/-! ## Numbers that are not finite -/

namespace Outline

variable {l : Outline} {x : Binary64}

theorem conditionFault?_isSome {c : Condition} (hc : l.condition = some c)
    (hmem : .float x ∈ c.literals) (hx : x.isFinite = false) : l.conditionFault?.isSome := by
  rw [conditionFault?, hc]
  exact List.findSome?_isSome_iff.mpr ⟨_, hmem, by simp [Literal.fault?, hx]⟩

theorem columnFault_isSome {col : Column} (hcol : col ∈ l.columns)
    (hdefault : col.default = some (.float x)) (hx : x.isFinite = false) :
    (l.columns.findSome? Column.fault?).isSome := by
  refine List.findSome?_isSome_iff.mpr ⟨col, hcol, ?_⟩
  simp [Column.fault?, hdefault, Literal.fault?, hx]

/-- A statement with a number that is not finite is refused, for this reason or for another one. -/
theorem refusal_isSome_of_pending (form : MultiRowForm) (p : Parameters) {o : Operation}
    (hmem : .float x ∈ l.pending o) (hx : x.isFinite = false) : (l.refusal form p o).isSome := by
  -- The condition is written first, and the columns after the other checks.
  have hcondition (h : .float x ∈ l.condition.elim [] Condition.literals) :
      l.conditionFault?.isSome := by
    cases hc : l.condition with
    | none => simp [hc] at h
    | some c => exact conditionFault?_isSome hc (by simpa [hc] using h) hx
  cases o with
  | get => simp [refusal, hcondition hmem]
  | update => simp [refusal, hcondition hmem]
  | delete => simp [refusal, hcondition hmem]
  | create =>
    obtain ⟨col, hcol, hdefault⟩ := List.mem_filterMap.mp hmem
    simp [refusal, columnFault_isSome hcol hdefault hx]
  | store => cases hmem
  | truncate => cases hmem
  | drop => cases hmem

end Outline

namespace Session

/-- **Only numbers are found at fault too late.** After any run of calls on an empty query a
statement is refused as a whole, or because of a number that is not finite among the values that are
kept until it is built. Each such number makes every statement that needs it fail. -/
theorem refused_builds (d : Dialect) (e : Escaper) (calls : List Call) (o : Operation)
    (p : Parameters) :
    let s := Session.run { query := .withEscaper d e } calls
    let kept := s.query.fragments.outline.pending o
    (∀ err, (s.perform (.build o p)).1 = .error err → err.Structural o ∨ err.OfNumber kept) ∧
      ∀ x, .float x ∈ kept → x.isFinite = false →
        ∃ err, (s.perform (.build o p)).1 = .error err := by
  intro s kept
  have hs : s.query.fragments.WellFormed := wellFormed_run Fragments.wellFormed_empty calls
  refine ⟨fun err h => Query.error_cases hs (sql_of_perform_build h), fun x hmem hx => ?_⟩
  obtain ⟨err, herr⟩ := Option.isSome_iff_exists.mp
    (Outline.refusal_isSome_of_pending s.query.dialect.multiRowForm p hmem hx)
  exact ⟨err, refusal_eq_some_iff.mp ((refusal_perform_build s o p).trans herr)⟩

/-- A condition with infinity is accepted and makes the selection fail, although a row with infinity
is refused at once. -/
theorem get_of_infinity :
    let infinity : Literal := .float ⟨0x7ff0000000000000⟩
    let fault : Error := .invalidValue (.nonFinite ⟨0x7ff0000000000000⟩)
    let start : Session := { query := .ofDialect .postgresql }
    let calls : List Call :=
      [.table "t", .keys ["a"], .restrict .replace "a" "=" (.scalar infinity)]
    (start.steps calls).map (fun (s, c) => (s.perform c).1) = [.ok none, .ok none, .ok none] ∧
      ((start.run calls).perform (.get 0 0)).1 = .error fault ∧
      ((start.run calls).perform (.values [infinity])).1 = .error fault := by
  intro infinity fault start calls
  have hsteps : (start.steps calls).map (fun (s, c) => (s.perform c).1) =
      [.ok none, .ok none, .ok none] := by rfl
  have hget : ((start.run calls).perform (.get 0 0)).1 = .error fault := by rfl
  have hvalues : ((start.run calls).perform (.values [infinity])).1 = .error fault := by rfl
  exact ⟨hsteps, hget, hvalues⟩

end Session

end DialectSql
