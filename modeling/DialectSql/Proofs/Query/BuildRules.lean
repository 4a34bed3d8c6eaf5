import DialectSql.Proofs.Query.WellFormed

/-!
# When a statement can be built

`Query.rules` lists for each operation the rules by which a statement of a query is refused, each
with the fault that it finds, in the order in which they are looked at. They speak of the fragments
alone, and of the dialect only where several rows are inserted without keys.

The rules `Decide` an outcome if the first of them that applies is the one the error reports, and
there is no error if none applies. The checks of the builders (`Outline.refusal`) are chains in
which a later check counts only if the earlier ones have passed, and `Decide.append` is the step
that puts the rules of two checks together. The main statement `build_by_rules` says it of all
statements of all queries that calls can reach; there no name is blank, no row is empty and no
column has the length zero, so that the rules need not ask for these.
-/

set_option autoImplicit false

namespace DialectSql

open Text

/-! ## Faults and rules -/

/-- What a statement is refused for. -/
inductive Fault where
  /-- One of these literals is a number that is not finite. -/
  | number (vs : List Literal)
  /-- The statement cannot do without this. -/
  | missing (r : Requirement)
  /-- Rows and keys do not fit together. -/
  | mismatch

/-- The errors by which an operation reports a fault. -/
inductive Fault.Reports (o : Operation) : Fault → Error → Prop where
  | number {vs : List Literal} {e : Error} (h : e.OfNumber vs) : Reports o (.number vs) e
  | missing (r : Requirement) : Reports o (.missing r) (.missing o r)
  | mismatch (m : Mismatch) : Reports o .mismatch (.mismatched o m)

/-- A fault, and whether a statement has it. -/
structure Rule where
  applies : Bool
  fault : Fault

/-- Whether a literal is a number that is not finite. -/
def Literal.isNonFinite : Literal → Bool
  | float x => !x.isFinite
  | _ => false

theorem Literal.isNonFinite_eq (v : Literal) : v.isNonFinite = v.fault?.isSome := by
  cases v with
  | float x =>
    rw [isNonFinite, fault?]
    cases x.isFinite <;> rfl
  | _ => rfl

/-- Whether a name is not given, or is blank. -/
def isBlankName (name : Option String) : Bool := name.all fun n => trim n == ""

theorem isBlankName_eq (name : Option String) :
    isBlankName name = (name.bind nonblank?).isNone := by
  cases name with
  | none => rfl
  | some n => by_cases h : trim n = "" <;> simp [isBlankName, nonblank?, h]

/-- A new table has a name unless both names are blank. -/
theorem isBlankName_or (name table : Option String) :
    isBlankName ((name.bind nonblank?).or table) = (isBlankName name && isBlankName table) := by
  rw [isBlankName_eq name]
  cases hname : name.bind nonblank? with
  | none => rfl
  | some n =>
    obtain ⟨text, -, hn⟩ := Option.bind_eq_some_iff.mp hname
    have htidy := tidy_of_nonblank hn
    simpa [isBlankName, htidy.trimmed] using htidy.ne_empty

namespace Rule

/-- One of these literals is a number that is not finite. -/
def number (vs : List Literal) : Rule := ⟨vs.any Literal.isNonFinite, .number vs⟩

/-- The condition has a number that is not finite. -/
def condition (f : Fragments) : Rule := number (f.condition.elim [] Condition.literals)

/-- No table is set. -/
def table (f : Fragments) : Rule := ⟨f.table = none, .missing .table⟩

end Rule

/-- The rules by which a statement is refused, in their order. -/
def Query.rules (q : Query) (p : Parameters) : Operation → List Rule
  | .get =>
      [.condition q.fragments, .table q.fragments, ⟨q.fragments.keys = [], .missing .keys⟩]
  | .store =>
      let rows := q.fragments.rows
      let keys := q.fragments.keys
      [.table q.fragments, ⟨rows = [], .missing .values⟩,
        ⟨∃ row ∈ rows, ∃ other ∈ rows, row.length ≠ other.length, .mismatch⟩,
        ⟨(∃ k ∈ keys, k ≠ "*") ∧ ∃ row ∈ rows, (keys.filter (· ≠ "*")).length ≠ row.length,
          .mismatch⟩,
        ⟨q.dialect = .sqlite ∧ 2 ≤ rows.length ∧ ∀ k ∈ keys, k = "*", .missing .keys⟩]
  | .update =>
      let rows := q.fragments.rows
      let keys := q.fragments.keys
      [.condition q.fragments, .table q.fragments, ⟨keys = [] ∨ "*" ∈ keys, .missing .keys⟩,
        ⟨rows = [], .missing .values⟩, ⟨1 < rows.length, .mismatch⟩,
        ⟨∃ row ∈ rows, row.length ≠ keys.length, .mismatch⟩]
  | .delete => [.condition q.fragments, .table q.fragments]
  | .truncate | .drop => [.table q.fragments]
  | .create =>
      let columns := q.fragments.columns
      [⟨isBlankName p.name && isBlankName q.fragments.table, .missing .name⟩,
        ⟨columns = [], .missing .columns⟩, .number (columns.filterMap Column.default)]

/-! ## The first rule that applies -/

/-- The first of the rules that applies is reported by the error, and there is no error if none
applies. -/
def Decide (o : Operation) (rules : List Rule) (r : Option Error) : Prop :=
  match rules.find? Rule.applies with
  | some rule => ∃ e, r = some e ∧ rule.fault.Reports o e
  | none => r = none

/-! ## Rows and keys -/

/-- The keys that name a column are those other than the wildcard. -/
theorem named_outline (f : Fragments) :
    f.outline.named = (f.keys.filter (· ≠ "*")).length :=
  (length_columns { table := f.table, keys := f.keys, rows := f.rows } f.outline rfl).symm

/-- The outline shows whether there are several rows and no keys but wildcards. -/
theorem isKeyless_outline_iff (f : Fragments) :
    f.outline.isKeyless = true ↔ 2 ≤ f.rows.length ∧ ∀ k ∈ f.keys, k = "*" := by
  have hlength : f.outline.widths.length = f.rows.length := List.length_map _
  rw [Outline.isKeyless, named_outline, hlength, Bool.and_eq_true, decide_eq_true_iff, beq_iff_eq,
    List.length_eq_zero_iff, List.filter_eq_nil_iff]
  exact and_congr Nat.lt_iff_add_one_le (by simp)

/-- If all rows are as long as the first one, it does not matter which one the keys go with. -/
theorem exists_keyCount_ne_iff (f : Fragments) {first : List String} {rest : List (List String)}
    (hsame : ∀ row ∈ first :: rest, row.length = first.length) :
    ((∃ k ∈ f.keys, k ≠ "*") ∧
        ∃ row ∈ first :: rest, (f.keys.filter (· ≠ "*")).length ≠ row.length) ↔
      f.outline.named ≠ 0 ∧ f.outline.named ≠ first.length := by
  rw [named_outline, ne_eq, List.length_eq_zero_iff, List.filter_eq_nil_iff]
  refine and_congr (by simp) ⟨?_, fun hne => ⟨first, List.mem_cons_self, hne⟩⟩
  rintro ⟨row, hrow, hne⟩
  rwa [hsame row hrow] at hne

namespace Outline

variable {l : Outline} {width : Nat} {rest : List Nat}

/-- Rows of one width are at fault only if it is not the number of keys. -/
theorem rowFault?_of_same (hl : l.widths = width :: rest) (hwidth : width ≠ 0)
    (hsame : ∀ w ∈ rest, w = width) :
    l.rowFault? =
      if l.named ≠ 0 ∧ l.named ≠ width then some (.mismatched .store (.keyCount l.named width))
      else none := by
  rw [rowFault?, hl]
  simp only [if_neg hwidth]
  split
  · next w i hfind =>
    have hmem := List.fst_mem_of_mem_zipIdx (List.mem_of_find?_eq_some hfind)
    have hother : w ≠ width := by simpa using List.find?_some hfind
    rcases List.mem_cons.mp hmem with hfirst | hrest
    · exact absurd hfirst hother
    · exact absurd (hsame w hrest) hother
  · rfl

/-- A row of another width than the first one is a fault. -/
theorem exists_rowFault_of_other (hl : l.widths = width :: rest) (hwidth : width ≠ 0) {w : Nat}
    (hmem : w ∈ rest) (hother : w ≠ width) :
    ∃ m, l.rowFault? = some (.mismatched .store m) := by
  rw [rowFault?, hl]
  simp only [if_neg hwidth]
  split
  · exact ⟨_, rfl⟩
  · next hnone =>
    obtain ⟨i, hi⟩ := List.mem_iff_getElem?.mp (List.mem_cons_of_mem width hmem)
    have hsame := List.find?_eq_none.mp hnone (w, i) (List.mem_zipIdx_iff_getElem?.mpr hi)
    exact absurd (by simpa using hsame) hother

end Outline

/-- Columns of which none has the length zero are at fault with their default values only. -/
theorem findSome?_column {columns : List Column} (h : ∀ col ∈ columns, col.length ≠ some 0) :
    columns.findSome? Column.fault? =
      (columns.filterMap Column.default).findSome? Literal.fault? := by
  induction columns with
  | nil => rfl
  | cons col rest ih =>
    have hvalid : refusal col.validate = none := by
      rw [Column.validate, if_neg (h col List.mem_cons_self)]
      rfl
    have hrest := ih fun c hc => h c (List.mem_cons_of_mem col hc)
    rw [List.findSome?_cons, Column.fault?, hvalid, Option.none_or, hrest]
    cases hdefault : col.default with
    | none => rw [List.filterMap_cons_none hdefault]; rfl
    | some v => rw [List.filterMap_cons_some hdefault, List.findSome?_cons]; rfl

namespace Decide

variable {o : Operation} {rule : Rule} {rules rules' : List Rule} {r r' : Option Error}

theorem nil : Decide o [] none := rfl

/-- The first rule that applies decides. -/
theorem hit {e : Error} (h : rule.applies = true) (hr : r = some e)
    (he : rule.fault.Reports o e) : Decide o (rule :: rules) r := by
  rw [Decide, List.find?_cons, h]
  exact ⟨e, hr, he⟩

/-- A rule that does not apply leaves the decision to the others. -/
theorem skip (h : rule.applies = false) (hr : Decide o rules r) : Decide o (rule :: rules) r := by
  rwa [Decide, List.find?_cons, h]

/-- The rules of a second check count only if none of the first one applies. -/
theorem append (h : Decide o rules r) (h' : rules.find? Rule.applies = none → Decide o rules' r') :
    Decide o (rules ++ rules') (r.or r') := by
  rw [Decide, List.find?_append]
  cases hfind : rules.find? Rule.applies with
  | some rule =>
    rw [Decide, hfind] at h
    obtain ⟨e, rfl, he⟩ := h
    exact ⟨e, rfl, he⟩
  | none =>
    rw [Decide, hfind] at h
    obtain rfl : r = none := h
    exact h' hfind

/-! ## The rules of single checks -/

theorem ite (c : Prop) [Decidable c] (required : Requirement) :
    Decide o [⟨c, .missing required⟩] (if c then some (.missing o required) else none) := by
  by_cases h : c
  · exact hit (by simpa using h) (if_pos h) (.missing required)
  · exact skip (by simpa using h) (by rw [if_neg h]; exact nil)

/-- A list of literals is at fault if one of them is not finite. -/
theorem number (vs : List Literal) : Decide o [.number vs] (vs.findSome? Literal.fault?) := by
  cases hfault : vs.findSome? Literal.fault? with
  | some e =>
    obtain ⟨v, hv, he⟩ := List.exists_of_findSome?_eq_some hfault
    have hnumber : v.isNonFinite = true := by rw [Literal.isNonFinite_eq, he]; rfl
    exact hit (List.any_eq_true.mpr ⟨v, hv, hnumber⟩) rfl (.number (ofNumber_of_fault he hv))
  | none =>
    refine skip (List.any_eq_false.mpr fun v hv => ?_) nil
    rw [Literal.isNonFinite_eq, List.findSome?_eq_none_iff.mp hfault v hv]
    exact Bool.false_ne_true

theorem condition (f : Fragments) : Decide o [.condition f] f.outline.conditionFault? := by
  have hfault : f.outline.conditionFault? =
      (f.condition.elim [] Condition.literals).findSome? Literal.fault? := by
    rw [Outline.conditionFault?, Fragments.outline]
    cases f.condition <;> rfl
  rw [hfault]
  exact number _

/-- A name is required that is not blank. -/
theorem name (required : Requirement) (given : Option String) :
    Decide o [⟨isBlankName given, .missing required⟩]
      (refusal (requireName o required given)) := by
  cases hname : given.bind nonblank? with
  | some n =>
    refine skip ?_ ?_
    · rw [isBlankName_eq, hname]
      rfl
    · rw [requireName, hname]
      exact nil
  | none =>
    refine hit ?_ ?_ (.missing required)
    · rw [isBlankName_eq, hname]
      rfl
    · rw [requireName, hname]
      rfl

/-- The table of well-formed fragments is not blank, so it is enough that one is set. -/
theorem table {f : Fragments} (hf : f.WellFormed) :
    Decide o [.table f] (refusal (requireName o .table f.table)) := by
  have hblank : isBlankName f.table = decide (f.table = none) := by
    cases htable : f.table with
    | none => rfl
    | some t =>
      have htidy := hf.table t htable
      simpa [isBlankName, htidy.trimmed] using htidy.ne_empty
  rw [Rule.table, ← hblank]
  exact name .table f.table

/-- The rules of the rows that are inserted. -/
theorem rows {f : Fragments} (hf : f.WellFormed) :
    Decide .store
      [⟨f.rows = [], .missing .values⟩,
        ⟨∃ row ∈ f.rows, ∃ other ∈ f.rows, row.length ≠ other.length, .mismatch⟩,
        ⟨(∃ k ∈ f.keys, k ≠ "*") ∧ ∃ row ∈ f.rows, (f.keys.filter (· ≠ "*")).length ≠ row.length,
          .mismatch⟩]
      f.outline.rowFault? := by
  cases hrows : f.rows with
  | nil =>
    refine hit (by simp) ?_ (.missing .values)
    rw [Outline.rowFault?, Fragments.outline, hrows]
    rfl
  | cons first rest =>
    have hwidths : f.outline.widths = first.length :: rest.map List.length := by
      rw [Fragments.outline, hrows, List.map_cons]
    have hwidth : first.length ≠ 0 := by
      have hne := (hf.rows first (hrows ▸ List.mem_cons_self)).1
      simpa using hne
    refine skip (by simp) ?_
    by_cases hsame : ∀ row ∈ rest, row.length = first.length
    · have hall : ∀ row ∈ first :: rest, row.length = first.length :=
        List.forall_mem_cons.mpr ⟨rfl, hsame⟩
      refine skip (decide_eq_false ?_) ?_
      · rintro ⟨row, hrow, other, hmem, hne⟩
        exact hne ((hall row hrow).trans (hall other hmem).symm)
      have hcount := exists_keyCount_ne_iff f hall
      rw [Outline.rowFault?_of_same hwidths hwidth (by simpa using hsame)]
      by_cases hmisfit : f.outline.named ≠ 0 ∧ f.outline.named ≠ first.length
      · exact hit (decide_eq_true (hcount.mpr hmisfit)) (if_pos hmisfit) (.mismatch _)
      · refine skip (decide_eq_false (hcount.not.mpr hmisfit)) ?_
        rw [if_neg hmisfit]
        exact nil
    · obtain ⟨row, hrow, hother⟩ : ∃ row ∈ rest, row.length ≠ first.length := by simpa using hsame
      obtain ⟨m, hm⟩ := Outline.exists_rowFault_of_other hwidths hwidth
        (List.mem_map_of_mem hrow) hother
      refine hit (decide_eq_true ?_) hm (.mismatch m)
      exact ⟨row, List.mem_cons_of_mem first hrow, first, List.mem_cons_self, hother⟩

/-- The rules of the values that are assigned to keys. -/
theorem assignment (f : Fragments) :
    Decide .update
      [⟨f.keys = [] ∨ "*" ∈ f.keys, .missing .keys⟩, ⟨f.rows = [], .missing .values⟩,
        ⟨1 < f.rows.length, .mismatch⟩, ⟨∃ row ∈ f.rows, row.length ≠ f.keys.length, .mismatch⟩]
      f.outline.assignmentFault? := by
  have hkeys : (f.outline.wildcards = [] ∨ true ∈ f.outline.wildcards) ↔
      (f.keys = [] ∨ "*" ∈ f.keys) := by
    simp [Fragments.outline]
  have hlength : f.outline.wildcards.length = f.keys.length := List.length_map _
  have hwidths : f.outline.widths = f.rows.map List.length := rfl
  rw [Outline.assignmentFault?, hlength, hwidths]
  by_cases hmissing : f.keys = [] ∨ "*" ∈ f.keys
  · exact hit (by simpa using hmissing) (if_pos (hkeys.mpr hmissing)) (.missing .keys)
  · rw [if_neg (hkeys.not.mpr hmissing)]
    refine skip (by simpa using hmissing) ?_
    cases f.rows with
    | nil => exact hit rfl rfl (.missing .values)
    | cons row rest =>
      refine skip rfl ?_
      -- The width is compared with the keys only where there is no second row.
      cases rest with
      | nil =>
        refine skip rfl ?_
        by_cases hfits : row.length = f.keys.length
        · exact skip (by simpa using hfits) (by simpa [hfits] using nil)
        · exact hit (by simpa using hfits) (if_neg hfits) (.mismatch _)
      | cons second rest => exact hit (by simp) rfl (.mismatch _)

/-- The rules of the columns of a new table. -/
theorem columns {f : Fragments} (hf : f.WellFormed) :
    Decide .create [.number (f.columns.filterMap Column.default)]
      (f.columns.findSome? Column.fault?) := by
  rw [findSome?_column fun col hcol => (hf.columns col hcol).2]
  exact number _

end Decide

namespace Query

/-- The checks of each builder are put together from the single ones, in the order of the rules. -/
theorem decide_rules {q : Query} (hq : q.fragments.WellFormed) (o : Operation) (p : Parameters) :
    Decide o (q.rules p o) (refusal (q.template o p)) := by
  rw [refusal_template]
  cases o with
  | get =>
    have hkeys : q.fragments.outline.wildcards = [] ↔ q.fragments.keys = [] := List.map_eq_nil_iff
    refine .append (.condition _) fun _ => .append (.table hq) fun _ => ?_
    simp only [hkeys]
    exact .ite _ .keys
  | store =>
    refine .append (.table hq) fun _ => .append (.rows hq) fun _ => ?_
    simp only [Dialect.multiRowForm_eq_aliasedUnion_iff, isKeyless_outline_iff]
    exact .ite _ .keys
  | update =>
    exact .append (.condition _) fun _ => .append (.table hq) fun _ => .assignment q.fragments
  | delete => exact .append (.condition _) fun _ => .table hq
  | truncate => exact .table hq
  | create =>
    rw [rules, ← isBlankName_or]
    exact .append (.name .name _) fun _ =>
      .append (.ite (q.fragments.columns = []) .columns) fun _ => .columns hq
  | drop => exact .table hq

end Query

namespace Session

/-- **When a statement can be built.** After any run of calls on an empty query, a statement is
refused with the fault of the first of its rules that applies, and it can be built if none applies.
The same goes for the call that builds it. -/
theorem build_by_rules (d : Dialect) (e : Escaper) (calls : List Call) (o : Operation)
    (p : Parameters) :
    let s := Session.run { query := .withEscaper d e } calls
    (match (s.query.rules p o).find? Rule.applies with
      | some rule => ∃ fault, s.query.template o p = .error fault ∧ rule.fault.Reports o fault
      | none => ∃ sql, s.query.template o p = .ok sql) ∧
      refusal (s.perform (.build o p)).1 = refusal (s.query.template o p) := by
  intro s
  have hs : s.query.fragments.WellFormed := wellFormed_run Fragments.wellFormed_empty calls
  refine ⟨?_, by rw [refusal_perform_build, Query.refusal_template]⟩
  have hdecide := Query.decide_rules hs o p
  rw [Decide] at hdecide
  cases hfind : (s.query.rules p o).find? Rule.applies with
  | some rule =>
    rw [hfind] at hdecide
    obtain ⟨fault, hrefusal, hreports⟩ := hdecide
    exact ⟨fault, refusal_eq_some_iff.mp hrefusal, hreports⟩
  | none =>
    rw [hfind] at hdecide
    exact refusal_eq_none_iff.mp hdecide

/-- One row is not enough for an update: it has to be as long as the keys. A new table needs
columns, not only a name. -/
theorem update_of_other_width :
    let q := (Session.run { query := .ofDialect .postgresql }
      [.table "t", .keys ["a", "b"], .values [.int 1]]).query
    q.fragments.condition = none ∧ q.fragments.table ≠ none ∧
      ¬ (q.fragments.keys = [] ∨ "*" ∈ q.fragments.keys) ∧ q.fragments.rows.length = 1 ∧
      q.template .update {} = .error (.mismatched .update (.keyCount 2 1)) ∧
      isBlankName q.fragments.table = false ∧
      q.template .create {} = .error (.missing .create .columns) := by
  intro q
  exact ⟨rfl, by decide, by decide, by rfl, by rfl, by rfl, by rfl⟩

end Session

end DialectSql
