import DialectSql.Proofs.Query.Refusal
import DialectSql.Proofs.Query.Restriction
import DialectSql.Proofs.Rendering

/-!
# Portable programs

The same calls are made on two queries of different dialects and escapers. The texts that the two
accumulate differ, but what the checks look at does not: two queries are `Alike` if their fragments
have one outline and both or none of them are cleared after each statement. A call on two queries
that are alike is accepted by both or refused by both with one error, and leaves them alike
(`StepAlike.same`).

The one exception is an insertion of several rows without a key that names a column, which SQLite
alone refuses (`StepAlike.differs`). If the fragments are cleared after each statement they are then
cleared in one of the queries only, and from there on the two need not be alike. The main statement
`portable` is about all runs in which this has not happened.
-/

set_option autoImplicit false

namespace DialectSql

open Text

/-! ## Changes of two styles -/

/-- What a call does in two styles: nothing in both, a refusal with one error, or changes that keep
the outlines equal. -/
inductive EditsAlike : Option (Except Error (Fragments → Fragments)) →
    Option (Except Error (Fragments → Fragments)) → Prop where
  | none : EditsAlike none none
  | refused (e : Error) : EditsAlike (some (.error e)) (some (.error e))
  | changed {change change' : Fragments → Fragments}
      (h : ∀ f f' : Fragments, f.outline = f'.outline →
        (change f).outline = (change' f').outline) :
      EditsAlike (some (.ok change)) (some (.ok change'))

namespace EditsAlike

/-- What is read without regard to the style is refused in both styles or in none of them. -/
theorem of_map {α : Type} {x : Except Error α} {write write' : α → Fragments → Fragments}
    (h : ∀ a, ∀ f f' : Fragments, f.outline = f'.outline →
      (write a f).outline = (write' a f').outline) :
    EditsAlike (some (x.map write)) (some (x.map write')) := by
  cases x with
  | error e => exact .refused e
  | ok a => exact .changed (h a)

end EditsAlike

theorem except_map_map {α β γ : Type} (x : Except Error α) (f : α → β) (g : β → γ) :
    (x.map f).map g = x.map fun a => g (f a) := by
  cases x <;> rfl

/-- The outline of the keys does not depend on the dialect. -/
theorem wildcards_render (d : Dialect) (ks : List Key) :
    (ks.map (Key.render d)).map (· == "*") = ks.map Key.isWildcard := by
  rw [List.map_map]
  refine List.map_congr_left fun k _ => ?_
  rw [Function.comp_apply, Bool.eq_iff_iff, beq_iff_eq, k.render_eq_wildcard_iff d]

/-- What is written in a style is first read without it, and the outline does not see the
writing. -/
theorem Call.edits_alike (st st' : Style) (c : Call) : EditsAlike (c.edit st) (c.edit st') := by
  cases c with
  | table name =>
    simp only [edit]
    split
    · exact .changed fun f f' h => by simp_all [Fragments.outline]
    · exact .refused _
  | distinct => exact .changed fun f f' h => h
  | keys expressions =>
    simp only [edit, Dialect.keys_eq_map, except_map_map]
    refine .of_map fun ks f f' h => ?_
    have hks := (wildcards_render st.dialect ks).trans (wildcards_render st'.dialect ks).symm
    simp_all only [Fragments.outline, Outline.mk.injEq]
  | values row =>
    simp only [edit]
    split
    · exact .refused _
    · rcases literals_alike st st' row with
        ⟨e, hcells, hcells'⟩ | ⟨cells, cells', hcells, hcells', hwidth⟩
      · rw [hcells, hcells']
        exact .refused e
      · rw [hcells, hcells']
        exact .changed fun f f' h => by simp_all [Fragments.outline]
  | restrict a column operator operand =>
    refine .of_map fun condition f f' h => ?_
    simp_all [Fragments.outline]
  | restrictGroup a left connective right =>
    refine .of_map fun condition f f' h => ?_
    simp_all [Fragments.outline]
  | join type table label => exact .of_map fun j f f' h => h
  | usingColumns columns =>
    simp only [edit, Dialect.columnList_eq_map, except_map_map]
    exact .of_map fun items f f' h => h
  | joinWhere a first operator second => exact .of_map fun term f f' h => h
  | orderBy columns directions =>
    simp only [edit, Dialect.orderItems_eq_map, except_map_map]
    exact .of_map fun items f f' h => h
  | groupBy columns =>
    simp only [edit, Dialect.columnList_eq_map, except_map_map]
    exact .of_map fun items f f' h => h
  | having clauses =>
    simp only [edit]
    split
    · exact .refused _
    · exact .changed fun f f' h => h
  | column definition =>
    refine .of_map fun _ f f' h => ?_
    simp_all [Fragments.outline]
  | _ => exact .none

/-! ## Statements of two dialects -/

/-- Only an insertion without keys depends on how the dialect inserts several rows, and only in that
a union of selections is refused. -/
theorem Outline.refusal_eq_or (l : Outline) (form form' : MultiRowForm) (p : Parameters)
    (o : Operation) :
    l.refusal form p o = l.refusal form' p o ∨
      (o = .store ∧ l.isKeyless = true) ∧
        ((form = .aliasedUnion ∧ form' ≠ .aliasedUnion ∧
            l.refusal form p o = some (.missing .store .keys) ∧ l.refusal form' p o = none) ∨
          (form' = .aliasedUnion ∧ form ≠ .aliasedUnion ∧
            l.refusal form' p o = some (.missing .store .keys) ∧ l.refusal form p o = none)) := by
  cases o with
  | store =>
    let first := (DialectSql.refusal (requireName .store .table l.table)).or l.rowFault?
    -- The keys are looked at last, so an earlier refusal is the same in both forms.
    have hstore (form : MultiRowForm) : l.refusal form p .store = first.or
        (if form = .aliasedUnion ∧ l.isKeyless = true then some (.missing .store .keys)
          else none) := by
      simp only [refusal, first, Option.or_assoc]
    cases hfirst : first with
    | some e =>
      left
      rw [hstore, hstore, hfirst, Option.some_or, Option.some_or]
    | none =>
      simp only [hstore, hfirst, Option.none_or]
      by_cases hkeyless : l.isKeyless = true
      · by_cases h : form = .aliasedUnion <;> by_cases h' : form' = .aliasedUnion <;>
          simp [hkeyless, h, h']
      · simp [hkeyless]
  | _ => exact Or.inl rfl

/-- The escaper that a call sets. -/
def Call.escaper? : Call → Option Escaper
  | setEscaper e => some e
  | _ => none

/-- Two queries that the checks of a call do not tell apart. -/
structure Query.Alike (q q' : Query) : Prop where
  outline : q.fragments.outline = q'.fragments.outline
  autoReset : q.autoReset = q'.autoReset

/-- Two answers to a call of which the first one is a refusal because of the keys that SQLite needs;
the second one is an acceptance, in another dialect. -/
structure RefusedBySqlite (d d' : Dialect) (answer answer' : Except Error (Option String)) :
    Prop where
  sqlite : d = .sqlite
  other : d' ≠ .sqlite
  refused : answer = .error (.missing .store .keys)
  accepted : refusal answer' = none

namespace Session

/-- Whether a call inserts several rows without a key that names a column. -/
def insertsKeyless (s : Session) (c : Call) : Bool :=
  c.building.map Prod.fst == some .store && s.query.fragments.outline.isKeyless

theorem perform_of_building {s : Session} {c : Call} {o : Operation} {p : Parameters}
    (h : c.building = some (o, p)) : s.perform c = s.perform (.build o p) := by
  cases c with
  | build o' p' =>
    cases h
    rfl
  | buildNamed text p' =>
    rw [Call.building] at h
    obtain ⟨o', ho, hop⟩ := Option.map_eq_some_iff.mp h
    cases hop
    rw [perform_buildNamed, ho]
  | _ => cases h

/-- A build that is accepted clears the fragments if that is set. -/
theorem query_perform_build (s : Session) (o : Operation) (p : Parameters) :
    (s.perform (.build o p)).2.query =
      if (refusal (s.perform (.build o p)).1).isNone && s.query.autoReset then
        { s.query with fragments := {} }
      else s.query := by
  rw [perform_build]
  cases s.query.sql o p with
  | error e => rfl
  | ok text => rfl

variable {s s' : Session}

/-- What comes of a call on two sessions that are alike. -/
inductive StepAlike (s s' : Session) (c : Call) : Prop where
  | same (hanswer : refusal (s.perform c).1 = refusal (s'.perform c).1)
      (hafter : (s.perform c).2.query.Alike (s'.perform c).2.query)
  | differs (hkeyless : s.insertsKeyless c = true)
      (hanswer : RefusedBySqlite s.query.dialect s'.query.dialect (s.perform c).1 (s'.perform c).1 ∨
        RefusedBySqlite s'.query.dialect s.query.dialect (s'.perform c).1 (s.perform c).1)
      (hafter : s.query.autoReset = false → (s.perform c).2.query.Alike (s'.perform c).2.query)

/-- A call on the fragments takes one step in both dialects. -/
theorem StepAlike.of_edit (h : s.query.Alike s'.query) {c : Call}
    (hsome : (c.edit s.query.style).isSome) : StepAlike s s' c := by
  have hedits := c.edits_alike s.query.style s'.query.style
  generalize hr : c.edit s.query.style = r at hedits hsome
  generalize hr' : c.edit s'.query.style = r' at hedits
  cases hedits with
  | none => cases hsome
  | refused e =>
    refine .same ?_ ?_
    · rw [perform_of_edit hr, perform_of_edit hr']
      rfl
    · rw [perform_of_edit hr, perform_of_edit hr']
      exact h
  | changed hchange =>
    refine .same ?_ ?_
    · rw [perform_of_edit hr, perform_of_edit hr']
      rfl
    · rw [perform_of_edit hr, perform_of_edit hr']
      exact ⟨hchange _ _ h.outline, h.autoReset⟩

theorem StepAlike.of_setting (h : s.query.Alike s'.query) {c : Call} {g : Query → Query}
    (hg : c.setting = some g) : StepAlike s s' c := by
  have hauto : (g s.query).autoReset = (g s'.query).autoReset := by
    cases c with
    | setAutoReset enabled =>
      cases hg
      rfl
    | setEscaper e =>
      cases hg
      exact h.autoReset
    | setTablePrefix text =>
      cases hg
      exact h.autoReset
    | _ => cases hg
  refine .same ?_ ?_
  · rw [perform_of_setting hg, perform_of_setting hg]
  · rw [perform_of_setting hg, perform_of_setting hg]
    refine ⟨?_, hauto⟩
    rw [Call.fragments_of_setting hg, Call.fragments_of_setting hg]
    exact h.outline

/-- Of two sessions that answer a build alike both are cleared or none of them. -/
theorem alike_perform_build (h : s.query.Alike s'.query) {o : Operation} {p : Parameters}
    (hanswer : s.query.autoReset = true →
      refusal (s.perform (.build o p)).1 = refusal (s'.perform (.build o p)).1) :
    (s.perform (.build o p)).2.query.Alike (s'.perform (.build o p)).2.query := by
  -- Without `autoReset` the answer does not matter, since the queries stay as they are.
  have hcleared : ((refusal (s.perform (.build o p)).1).isNone && s.query.autoReset) =
      ((refusal (s'.perform (.build o p)).1).isNone && s'.query.autoReset) := by
    rw [← h.autoReset]
    cases hauto : s.query.autoReset with
    | false => rw [Bool.and_false, Bool.and_false]
    | true => rw [hanswer hauto]
  rw [query_perform_build, query_perform_build, hcleared]
  split
  · exact ⟨rfl, h.autoReset⟩
  · exact ⟨h.outline, h.autoReset⟩

/-- A build takes one step in both dialects, unless only SQLite refuses it. -/
theorem StepAlike.of_building (h : s.query.Alike s'.query) {c : Call} {o : Operation}
    {p : Parameters} (hc : c.building = some (o, p)) : StepAlike s s' c := by
  have hs := refusal_perform_build s o p
  have hs' := refusal_perform_build s' o p
  rw [← h.outline] at hs'
  rcases s.query.fragments.outline.refusal_eq_or s.query.dialect.multiRowForm
    s'.query.dialect.multiRowForm p o with hsame | ⟨⟨rfl, hkeyless⟩, hdiffers⟩
  · have hanswer := hs.trans (hsame.trans hs'.symm)
    refine .same ?_ ?_
    · rwa [perform_of_building hc, perform_of_building hc]
    · rw [perform_of_building hc, perform_of_building hc]
      exact alike_perform_build h fun _ => hanswer
  · refine .differs (by simp [insertsKeyless, hc, hkeyless]) ?_ fun hauto => ?_
    · rw [← hs, ← hs', ← perform_of_building hc, ← perform_of_building hc] at hdiffers
      simp only [ne_eq, Dialect.multiRowForm_eq_aliasedUnion_iff] at hdiffers
      rcases hdiffers with ⟨hd, hd', hrefused, haccepted⟩ | ⟨hd', hd, hrefused, haccepted⟩
      · exact Or.inl ⟨hd, hd', refusal_eq_some_iff.mp hrefused, haccepted⟩
      · exact Or.inr ⟨hd', hd, refusal_eq_some_iff.mp hrefused, haccepted⟩
    · rw [perform_of_building hc, perform_of_building hc]
      exact alike_perform_build h fun htrue => by rw [hauto] at htrue; cases htrue

/-- A call on two sessions that are alike is answered alike and keeps them alike, or it is an
insertion that SQLite alone refuses. -/
theorem step_alike (h : s.query.Alike s'.query) (c : Call) : StepAlike s s' c := by
  cases c with
  | setEscaper e => exact .of_setting h rfl
  | setTablePrefix text => exact .of_setting h rfl
  | setAutoReset enabled => exact .of_setting h rfl
  | reset deep => exact .same rfl ⟨rfl, h.autoReset⟩
  | build o p => exact .of_building h rfl
  | buildNamed text p =>
    cases ho : Operation.ofText? text with
    | none =>
      have hs (t : Session) :
          t.perform (.buildNamed text p) = (.error (.unsupportedOperation text), t) := by
        rw [perform_buildNamed, ho]
      exact .same (by rw [hs, hs]) (by rw [hs, hs]; exact h)
    | some o => exact .of_building (p := p) h (by rw [Call.building, ho]; rfl)
  | _ => exact .of_edit h rfl

/-! ## Runs -/

/-- Whether in two runs of the calls no insertion of several rows without keys has cleared the
fragments of one session and not of the other. -/
def clearedAlike (s s' : Session) : List Call → Bool
  | [] => true
  | c :: calls =>
      (!(s.insertsKeyless c && s.query.autoReset) ||
        refusal (s.perform c).1 == refusal (s'.perform c).1) &&
        clearedAlike (s.perform c).2 (s'.perform c).2 calls

/-- Queries of two dialects stay alike in a run, if what only SQLite refuses clears neither or both
of them. -/
theorem alike_run (h : s.query.Alike s'.query) {calls : List Call}
    (hcleared : clearedAlike s s' calls = true) :
    (s.run calls).query.Alike (s'.run calls).query := by
  induction calls generalizing s s' with
  | nil => exact h
  | cons c calls ih =>
    rw [clearedAlike, Bool.and_eq_true] at hcleared
    obtain ⟨hc, hcalls⟩ := hcleared
    refine ih ?_ hcalls
    cases step_alike h c with
    | same hanswer hafter => exact hafter
    | differs hkeyless hanswer hafter =>
      -- With `autoReset` such an insertion has the same outcome in both runs by hypothesis.
      refine hafter ?_
      cases hauto : s.query.autoReset with
      | false => rfl
      | true =>
        have hsame : refusal (s.perform c).1 = refusal (s'.perform c).1 := by
          simpa [hkeyless, hauto] using hc
        rcases hanswer with ⟨-, -, hrefused, haccepted⟩ | ⟨-, -, hrefused, haccepted⟩
        · rw [hrefused, haccepted] at hsame
          cases hsame
        · rw [hrefused, haccepted] at hsame
          cases hsame

/-- Only the change of the escaper changes the style. -/
theorem style_perform (s : Session) (c : Call) :
    (s.perform c).2.query.style =
      ⟨s.query.dialect, c.escaper?.getD s.query.style.escaper⟩ := by
  cases hc : c.escaper? with
  | some e =>
    cases c with
    | setEscaper e' =>
      cases hc
      rfl
    | _ => cases hc
  | none =>
    have houtcome := s.outcome c
    generalize s.perform c = r at houtcome ⊢
    cases houtcome with
    | refused e => rfl
    | edited f h => rfl
    | set g h =>
      cases c with
      | setEscaper e => cases hc
      | setTablePrefix text =>
        cases h
        rfl
      | setAutoReset enabled =>
        cases h
        rfl
      | _ => cases h
    | cleared deep h => rfl
    | built o p sql h hsql =>
      show (if s.query.autoReset then _ else _ : Query).style = _
      split <;> rfl

/-- The dialect is never changed, and the escaper after a run is the last one that was set. -/
theorem style_run (s : Session) (calls : List Call) :
    (s.run calls).query.style =
      ⟨s.query.dialect, (calls.filterMap Call.escaper?).getLastD s.query.style.escaper⟩ := by
  induction calls generalizing s with
  | nil => rfl
  | cons c calls ih =>
    rw [run_cons, ih, Query.dialect, style_perform]
    cases hc : c.escaper? with
    | none =>
      rw [List.filterMap_cons_none hc]
      rfl
    | some e =>
      rw [List.filterMap_cons_some hc, List.getLastD_cons]
      rfl

/-- **Programs are portable.** The same calls are made on two empty queries of any two dialects and
escapers, and no insertion of several rows without keys has cleared one of them only. Then the next
call is accepted by both or refused by both with one error, unless it is such an insertion, which
SQLite refuses for lack of keys and the other dialect accepts. -/
theorem portable (d d' : Dialect) (e e' : Escaper) (calls : List Call) (c : Call)
    (hcleared : clearedAlike { query := .withEscaper d e } { query := .withEscaper d' e' } calls =
      true) :
    let s := Session.run { query := .withEscaper d e } calls
    let s' := Session.run { query := .withEscaper d' e' } calls
    refusal (s.perform c).1 = refusal (s'.perform c).1 ∨
      s.insertsKeyless c = true ∧
        (RefusedBySqlite d d' (s.perform c).1 (s'.perform c).1 ∨
          RefusedBySqlite d' d (s'.perform c).1 (s.perform c).1) := by
  intro s s'
  have hd : s.query.dialect = d := congrArg Style.dialect (style_run _ calls)
  have hd' : s'.query.dialect = d' := congrArg Style.dialect (style_run _ calls)
  have hempty : (Query.withEscaper d e).Alike (.withEscaper d' e') := ⟨rfl, rfl⟩
  have halike : s.query.Alike s'.query :=
    alike_run (s := { query := .withEscaper d e }) hempty hcleared
  cases step_alike halike c with
  | same hanswer hafter => exact Or.inl hanswer
  | differs hkeyless hanswer hafter =>
    rw [hd, hd'] at hanswer
    exact Or.inr ⟨hkeyless, hanswer⟩

/-- Two rows without keys are refused by SQLite and accepted by PostgreSQL. -/
theorem portable_two_rows :
    let calls : List Call := [.setAutoReset true, .table "t", .values [.int 1], .values [.text "x"]]
    let s := Session.run { query := .withEscaper .sqlite .identity } calls
    let s' := Session.run { query := .withEscaper .postgresql .bracketed } calls
    clearedAlike { query := .withEscaper .sqlite .identity }
        { query := .withEscaper .postgresql .bracketed } calls = true ∧
      s.insertsKeyless .store = true ∧
        (RefusedBySqlite .sqlite .postgresql (s.perform .store).1 (s'.perform .store).1 ∨
          RefusedBySqlite .postgresql .sqlite (s'.perform .store).1 (s.perform .store).1) := by
  intro calls s s'
  have hcleared : clearedAlike { query := .withEscaper .sqlite .identity }
      { query := .withEscaper .postgresql .bracketed } calls = true := by rfl
  have hdiffers : refusal (s.perform .store).1 ≠ refusal (s'.perform .store).1 := by decide
  exact ⟨hcleared, (portable .sqlite .postgresql .identity .bracketed calls .store
    hcleared).resolve_left hdiffers⟩

/-- An insertion that SQLite alone refuses clears the fragments in the other dialect alone, and then
the table can be emptied in SQLite alone. -/
theorem truncate_after_two_rows :
    let calls : List Call :=
      [.setAutoReset true, .table "t", .values [.int 1], .values [.int 2], .store]
    let s := Session.run { query := .ofDialect .sqlite } calls
    let s' := Session.run { query := .ofDialect .postgresql } calls
    s.insertsKeyless .truncate = false ∧ s'.insertsKeyless .truncate = false ∧
      refusal (s.perform .truncate).1 = none ∧
      refusal (s'.perform .truncate).1 = some (.missing .truncate .table) := by
  intro calls s s'
  exact ⟨rfl, rfl, by rfl, by rfl⟩

end Session

end DialectSql
