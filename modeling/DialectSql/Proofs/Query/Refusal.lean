import DialectSql.Proofs.Query.Qualification

/-!
# Why a statement is refused

A statement of a query is refused by the first of its checks that fails. None of the checks looks at
the texts that have been written: `Outline` keeps of the fragments what they do look at, which is
the table, which of the keys are the wildcard, how many values each row has, the condition and the
columns. `Outline.refusal` says for each operation which checks there are and in which order, and
the main statement `refusal_template` says that these are the checks of the builders. The style has
no part in it but for one thing: how the dialect inserts several rows.

An error is about the statement as a whole, or about a number among the values that are written when
the statement is built (`refusal_cases`).
-/

set_option autoImplicit false

namespace DialectSql

open Text

/-! ## Computations that are refused -/

/-- The error of a computation, if it is refused. -/
def refusal {α : Type} : Except Error α → Option Error
  | .ok _ => none
  | .error e => some e

section Refusal

variable {α β : Type}

/-- A computation is not refused exactly if it has a result. -/
theorem refusal_eq_none_iff {x : Except Error α} : refusal x = none ↔ ∃ a, x = .ok a := by
  cases x with
  | ok a => simp [refusal]
  | error e => simp [refusal]

theorem refusal_eq_some_iff {x : Except Error α} {e : Error} :
    refusal x = some e ↔ x = .error e := by
  cases x with
  | ok a => simp [refusal]
  | error e => simp [refusal]

theorem refusal_map (x : Except Error α) (f : α → β) : refusal (x.map f) = refusal x := by
  cases x <;> rfl

/-- The refusal of a first computation goes before that of the second one. -/
theorem refusal_bind {x : Except Error α} {f : α → Except Error β} {r : Option Error}
    (h : ∀ a, x = .ok a → refusal (f a) = r) : refusal (x >>= f) = (refusal x).or r := by
  cases x with
  | ok a => exact h a rfl
  | error e => rfl

/-- Of a list the first refused element is the one that counts. -/
theorem refusal_mapM (f : α → Except Error β) (xs : List α) :
    refusal (xs.mapM f) = xs.findSome? fun x => refusal (f x) := by
  induction xs with
  | nil => rfl
  | cons x xs ih =>
    have hrest (b : β) : refusal (do let bs ← xs.mapM f; return b :: bs) = refusal (xs.mapM f) := by
      cases xs.mapM f <;> rfl
    rw [List.mapM_cons, refusal_bind fun b _ => hrest b, ih, List.findSome?_cons]
    cases refusal (f x) <;> rfl

theorem length_of_mapM {f : α → Except Error β} {xs : List α} {ys : List β}
    (h : xs.mapM f = .ok ys) : ys.length = xs.length := by
  induction xs generalizing ys with
  | nil =>
    cases h
    rfl
  | cons x xs ih =>
    rw [List.mapM_cons] at h
    obtain ⟨y, -, hrest⟩ := exists_of_bind_eq_ok h
    obtain ⟨rest, hrest', hys⟩ := exists_of_bind_eq_ok hrest
    cases hys
    rw [List.length_cons, ih hrest', List.length_cons]

end Refusal

/-! ## What is written when a statement is built -/

/-- Why a literal cannot be written: a number that is not finite has no literal. -/
def Literal.fault? : Literal → Option Error
  | .float x => if x.isFinite then none else some (.invalidValue (.nonFinite x))
  | _ => none

/-- A literal is refused in every style for the same fault. -/
theorem refusal_literal (st : Style) (v : Literal) : refusal (st.literal v) = v.fault? := by
  cases v with
  | float x =>
    rw [Style.literal, Literal.fault?]
    split <;> rfl
  | _ => rfl

/-- The first literal with a fault is the one that a list is refused for. -/
theorem refusal_literals (st : Style) (vs : List Literal) :
    refusal (st.literals vs) = vs.findSome? Literal.fault? := by
  rw [Style.literals, refusal_mapM]
  simp only [refusal_literal]

/-- Literals are refused alike in two styles or are as many texts in both. -/
theorem literals_alike (st st' : Style) (vs : List Literal) :
    (∃ e, st.literals vs = .error e ∧ st'.literals vs = .error e) ∨
      ∃ texts texts', st.literals vs = .ok texts ∧ st'.literals vs = .ok texts' ∧
        texts.length = texts'.length := by
  have hrefusal := (refusal_literals st vs).trans (refusal_literals st' vs).symm
  cases htexts : st.literals vs with
  | error e =>
    rw [htexts] at hrefusal
    exact Or.inl ⟨e, rfl, refusal_eq_some_iff.mp hrefusal.symm⟩
  | ok texts =>
    rw [htexts] at hrefusal
    obtain ⟨texts', htexts'⟩ := refusal_eq_none_iff.mp hrefusal.symm
    exact Or.inr ⟨texts, texts', rfl, htexts',
      (length_of_mapM htexts).trans (length_of_mapM htexts').symm⟩

/-- The values of a condition, from left to right. -/
def Condition.literals : Condition → List Literal
  | leaf p => p.operand.literals
  | group left _ right | chain left _ right => left.literals ++ right.literals

/-- An operand is refused for the first of its literals with a fault, in the order in which they are
written. -/
theorem refusal_operand (st : Style) (v : Operand) :
    refusal (v.render st) = v.literals.findSome? Literal.fault? := by
  cases v with
  | scalar v =>
    rw [Operand.render, refusal_literal, Operand.literals, List.findSome?_singleton]
  | list vs => exact (refusal_map (st.literals vs) _).trans (refusal_literals st vs)
  | range low high =>
    have hpair : [low, high].findSome? Literal.fault? = low.fault?.or high.fault? := by
      rw [← List.singleton_append, List.findSome?_append, List.findSome?_singleton,
        List.findSome?_singleton]
    rw [Operand.render, Operand.literals, hpair, ← refusal_literal st low,
      ← refusal_literal st high]
    exact refusal_bind fun text _ => refusal_map (st.literal high) _

/-- The column and the operator of a predicate have been checked before, so only its operand can be
refused. -/
theorem refusal_predicate (st : Style) (p : Predicate) :
    refusal (p.render st) = p.operand.literals.findSome? Literal.fault? :=
  (refusal_map (p.operand.render st) _).trans (refusal_operand st p.operand)

/-- A condition cannot be written exactly if one of its values cannot, and the leftmost of these is
the error. -/
theorem refusal_condition (st : Style) (c : Condition) :
    refusal (c.render st) = c.literals.findSome? Literal.fault? := by
  induction c with
  | leaf p => exact refusal_predicate st p
  | group left k right ihl ihr =>
    rw [Condition.render, Condition.literals, List.findSome?_append, ← ihl, ← ihr]
    exact refusal_bind fun l _ => refusal_map (right.render st) _
  | chain left k right ihl ihr =>
    rw [Condition.render, Condition.literals, List.findSome?_append, ← ihl, ← ihr]
    exact refusal_bind fun l _ => refusal_map (right.render st) _

/-- Why a definition cannot be written: its length is zero, or its default value has no literal. -/
def Column.fault? (col : Column) : Option Error :=
  (refusal col.validate).or (col.default.bind Literal.fault?)

/-- A definition is checked before its default is written. -/
theorem refusal_column (st : Style) (col : Column) : refusal (col.render st) = col.fault? := by
  have hdefault : refusal (col.defaultPart st) = col.default.bind Literal.fault? := by
    rw [Column.defaultPart]
    cases col.default with
    | none => rfl
    | some v => exact (refusal_map (st.literal v) _).trans (refusal_literal st v)
  rw [Column.render, Column.fault?, ← hdefault]
  exact refusal_bind fun _ _ => refusal_map (col.defaultPart st) _

/-! ## The checks of a statement -/

/-- What the checks of statements look at. -/
structure Outline where
  table : Option String
  /-- For each key whether it is the wildcard. -/
  wildcards : List Bool
  /-- For each row the number of its values. -/
  widths : List Nat
  condition : Option Condition
  columns : List Column

/-- What the checks look at in the fragments. -/
def Fragments.outline (f : Fragments) : Outline where
  table := f.table
  wildcards := f.keys.map (· == "*")
  widths := f.rows.map List.length
  condition := f.condition
  columns := f.columns

namespace Outline

/-- The number of keys that name a column. -/
def named (l : Outline) : Nat := l.wildcards.count false

/-- Why the condition cannot be written. -/
def conditionFault? (l : Outline) : Option Error :=
  l.condition.bind fun c => c.literals.findSome? Literal.fault?

/-- Why the rows cannot be inserted: there is no value, the rows have different widths, or the keys
that name a column are not as many as the values of a row. -/
def rowFault? (l : Outline) : Option Error :=
  match l.widths with
  | [] => some (.missing .store .values)
  | width :: rest =>
      if width = 0 then some (.missing .store .values)
      else
        match (width :: rest).zipIdx.find? (fun (w, _) => w != width) with
        | some (w, i) => some (.mismatched .store (.rowWidth i w width))
        | none =>
            if l.named ≠ 0 ∧ l.named ≠ width then
              some (.mismatched .store (.keyCount l.named width))
            else none

/-- Why the values cannot be assigned to the keys: there are no keys or one of them is the wildcard,
or there is not exactly one row, or it is not as long as the list of keys. -/
def assignmentFault? (l : Outline) : Option Error :=
  if l.wildcards = [] ∨ true ∈ l.wildcards then some (.missing .update .keys)
  else
    match l.widths with
    | [] => some (.missing .update .values)
    | [width] =>
        if width = l.wildcards.length then none
        else some (.mismatched .update (.keyCount l.wildcards.length width))
    | widths => some (.mismatched .update (.rowCount widths.length))

/-- Whether there are several rows and no key that names a column. -/
def isKeyless (l : Outline) : Bool := 1 < l.widths.length && l.named == 0

/-- The first check that fails when a statement is built. Only a union of selections needs keys that
name the columns of several rows. -/
def refusal (form : MultiRowForm) (p : Parameters) (l : Outline) : Operation → Option Error
  | .get =>
      l.conditionFault?.or <|
        (DialectSql.refusal (requireName .get .table l.table)).or <|
          if l.wildcards = [] then some (.missing .get .keys) else none
  | .store =>
      (DialectSql.refusal (requireName .store .table l.table)).or <| l.rowFault?.or <|
        if form = .aliasedUnion ∧ l.isKeyless = true then some (.missing .store .keys) else none
  | .update =>
      l.conditionFault?.or <|
        (DialectSql.refusal (requireName .update .table l.table)).or l.assignmentFault?
  | .delete => l.conditionFault?.or (DialectSql.refusal (requireName .delete .table l.table))
  | .truncate => DialectSql.refusal (requireName .truncate .table l.table)
  | .create =>
      (DialectSql.refusal (requireName .create .name ((p.name.bind nonblank?).or l.table))).or <|
        (if l.columns = [] then some (.missing .create .columns) else none).or <|
          l.columns.findSome? Column.fault?
  | .drop => DialectSql.refusal (requireName .drop .table l.table)

/-! ### What the error can be -/

/-- The literals that are kept as they are until a statement is built with them: the values of the
condition, or the default values of the columns. -/
def pending (l : Outline) : Operation → List Literal
  | .get | .update | .delete => l.condition.elim [] Condition.literals
  | .create => l.columns.filterMap Column.default
  | .store | .truncate | .drop => []

end Outline

/-- An error of a statement as a whole: something is missing, or parts do not fit together. -/
inductive Error.Structural (o : Operation) : Error → Prop where
  | missing (r : Requirement) : Structural o (.missing o r)
  | mismatched (m : Mismatch) : Structural o (.mismatched o m)

/-- An error of one value: it is a number among the given literals that is not finite. -/
inductive Error.OfNumber (vs : List Literal) : Error → Prop where
  | nonFinite (x : Binary64) (hmem : .float x ∈ vs) (hx : x.isFinite = false) :
      OfNumber vs (.invalidValue (.nonFinite x))

theorem structural_of_requireName {o : Operation} {r : Requirement} {name : Option String}
    {e : Error} (h : refusal (requireName o r name) = some e) : e.Structural o := by
  unfold requireName at h
  split at h
  · cases h
  · cases h
    exact .missing r

theorem ofNumber_of_fault {v : Literal} {e : Error} (h : v.fault? = some e) {vs : List Literal}
    (hv : v ∈ vs) : e.OfNumber vs := by
  cases v with
  | float x =>
    rw [Literal.fault?] at h
    split at h
    · cases h
    · next hx =>
      cases h
      exact .nonFinite x hv (by simpa using hx)
  | _ => cases h

namespace Outline

/-- Rows are refused for what is missing or for a width that does not fit. -/
theorem structural_of_rowFault {l : Outline} {e : Error} (h : l.rowFault? = some e) :
    e.Structural .store := by
  unfold rowFault? at h
  split at h
  · cases h
    exact .missing .values
  · split at h
    · cases h
      exact .missing .values
    · split at h
      · cases h
        exact .mismatched _
      · split at h
        · cases h
          exact .mismatched _
        · cases h

theorem structural_of_assignmentFault {l : Outline} {e : Error}
    (h : l.assignmentFault? = some e) : e.Structural .update := by
  unfold assignmentFault? at h
  split at h
  · cases h
    exact .missing .keys
  · split at h
    · cases h
      exact .missing .values
    · split at h
      · cases h
      · cases h
        exact .mismatched _
    · cases h
      exact .mismatched _

theorem structural_of_ite {p : Prop} [Decidable p] {o : Operation} {r : Requirement} {e : Error}
    (h : (if p then some (.missing o r) else none) = some e) : e.Structural o := by
  split at h
  · cases h
    exact .missing r
  · cases h

/-- A condition is refused for one of its literals, which are the ones that the statement writes. -/
theorem ofNumber_of_conditionFault {l : Outline} {e : Error} (h : l.conditionFault? = some e)
    {o : Operation} (ho : l.pending o = l.condition.elim [] Condition.literals) :
    e.OfNumber (l.pending o) := by
  obtain ⟨c, hc, hfault⟩ := Option.bind_eq_some_iff.mp h
  obtain ⟨v, hv, hfault⟩ := List.exists_of_findSome?_eq_some hfault
  rw [ho, hc]
  exact ofNumber_of_fault hfault hv

/-- Without a length of zero, a definition is refused for its default. -/
theorem ofNumber_of_columnFault {l : Outline} (hl : ∀ col ∈ l.columns, col.length ≠ some 0)
    {e : Error} (h : l.columns.findSome? Column.fault? = some e) :
    e.OfNumber (l.pending .create) := by
  obtain ⟨col, hcol, hfault⟩ := List.exists_of_findSome?_eq_some h
  have hvalid : DialectSql.refusal col.validate = none := by
    rw [Column.validate, if_neg (hl col hcol)]
    rfl
  rw [Column.fault?, hvalid, Option.none_or] at hfault
  obtain ⟨v, hv, hfault⟩ := Option.bind_eq_some_iff.mp hfault
  exact ofNumber_of_fault hfault (List.mem_filterMap.mpr ⟨col, hcol, hv⟩)

/-- A statement is refused as a whole, or because of a literal that is written when it is built, if
no column has the length zero. -/
theorem refusal_cases {l : Outline} (hl : ∀ col ∈ l.columns, col.length ≠ some 0)
    {form : MultiRowForm} {p : Parameters} {o : Operation} {e : Error}
    (h : l.refusal form p o = some e) : e.Structural o ∨ e.OfNumber (l.pending o) := by
  cases o with
  | get =>
    rcases Option.or_eq_some_iff.mp h with h | ⟨-, h⟩
    · exact Or.inr (ofNumber_of_conditionFault h rfl)
    · rcases Option.or_eq_some_iff.mp h with h | ⟨-, h⟩
      · exact Or.inl (structural_of_requireName h)
      · exact Or.inl (structural_of_ite h)
  | store =>
    rcases Option.or_eq_some_iff.mp h with h | ⟨-, h⟩
    · exact Or.inl (structural_of_requireName h)
    · rcases Option.or_eq_some_iff.mp h with h | ⟨-, h⟩
      · exact Or.inl (structural_of_rowFault h)
      · exact Or.inl (structural_of_ite h)
  | update =>
    rcases Option.or_eq_some_iff.mp h with h | ⟨-, h⟩
    · exact Or.inr (ofNumber_of_conditionFault h rfl)
    · rcases Option.or_eq_some_iff.mp h with h | ⟨-, h⟩
      · exact Or.inl (structural_of_requireName h)
      · exact Or.inl (structural_of_assignmentFault h)
  | delete =>
    rcases Option.or_eq_some_iff.mp h with h | ⟨-, h⟩
    · exact Or.inr (ofNumber_of_conditionFault h rfl)
    · exact Or.inl (structural_of_requireName h)
  | truncate => exact Or.inl (structural_of_requireName h)
  | create =>
    rcases Option.or_eq_some_iff.mp h with h | ⟨-, h⟩
    · exact Or.inl (structural_of_requireName h)
    · rcases Option.or_eq_some_iff.mp h with h | ⟨-, h⟩
      · exact Or.inl (structural_of_ite h)
      · exact Or.inr (ofNumber_of_columnFault hl h)
  | drop => exact Or.inl (structural_of_requireName h)

end Outline

/-! ## The checks of the builders -/

/-- A selection is refused for its table first, and then for its keys. -/
theorem refusal_select (d : Dialect) (n : TableNaming) (s : Select) :
    refusal (s.build d n) =
      (refusal (requireName .get .table s.table)).or
        (if s.keys = [] then some (.missing .get .keys) else none) := by
  rw [Select.build]
  refine refusal_bind fun table _ => ?_
  by_cases h : s.keys = []
  · rw [if_pos h, if_pos h]
    rfl
  · rw [if_neg h, if_neg h]
    rfl

theorem length_columns (s : Insert) (l : Outline) (h : l.wildcards = s.keys.map (· == "*")) :
    s.columns.length = l.named := by
  rw [Insert.columns, Outline.named, h, List.count, List.countP_map, List.countP_eq_length_filter]
  congr 2
  funext k
  by_cases hk : k = "*" <;> simp [hk]

/-- The first row of another width is the first other width in the list of widths. -/
theorem find?_width (first : List String) (rest : List (List String)) :
    (first.length :: rest.map List.length).zipIdx.find? (fun x => x.1 != first.length) =
      ((first :: rest).zipIdx.find? fun x => x.1.length != first.length).map
        (Prod.map List.length id) := by
  rw [← List.map_cons, List.zipIdx_map, List.find?_map]
  rfl

/-- The check of the rows sees of the keys which are wildcards, and of the rows how wide they
are. -/
theorem refusal_checkRows (s : Insert) (l : Outline) (hkeys : l.wildcards = s.keys.map (· == "*"))
    (hrows : l.widths = s.rows.map List.length) : refusal s.checkRows = l.rowFault? := by
  rw [Insert.checkRows, Outline.rowFault?, hrows, ← length_columns s l hkeys]
  cases s.rows with
  | nil => rfl
  | cons first rest =>
    by_cases hfirst : first = []
    · simp [hfirst, refusal]
    · have hwidth : first.length ≠ 0 := by simpa using hfirst
      simp only [List.map_cons, if_neg hfirst, if_neg hwidth, find?_width]
      cases (first :: rest).zipIdx.find? fun x => x.1.length != first.length with
      | some x => rfl
      | none =>
        simp only [Option.map_none, ne_eq, List.length_eq_zero_iff]
        split <;> rfl

/-- An insertion is refused for its table, then for its rows, and at last for keys that the union
with aliases needs. -/
theorem refusal_insert (d : Dialect) (n : TableNaming) (s : Insert) (l : Outline)
    (hkeys : l.wildcards = s.keys.map (· == "*")) (hrows : l.widths = s.rows.map List.length) :
    refusal (s.build d n) =
      (refusal (requireName .store .table s.table)).or (l.rowFault?.or
        (if d.multiRowForm = .aliasedUnion ∧ l.isKeyless = true then some (.missing .store .keys)
          else none)) := by
  have hkeyless : l.isKeyless = true ↔ 1 < s.rows.length ∧ s.columns = [] := by
    rw [Outline.isKeyless, hrows, List.length_map, ← length_columns s l hkeys]
    simp
  rw [Insert.build]
  refine refusal_bind fun table _ => ?_
  rw [← refusal_checkRows s l hkeys hrows]
  refine refusal_bind fun _ hrowsOk => ?_
  -- The check of the rows has seen that there is one.
  have hsome : s.rows ≠ [] := by
    intro hnone
    rw [Insert.checkRows, hnone] at hrowsOk
    cases hrowsOk
  have hlength := List.length_pos_iff.mpr hsome
  by_cases hone : s.rows.length = 1
  · rw [if_pos hone, if_neg fun h => by have := (hkeyless.mp h.2).1; omega]
    rfl
  · rw [if_neg hone]
    cases hform : d.multiRowForm with
    | valuesList => rfl
    | dualUnion => rfl
    | aliasedUnion =>
      by_cases hnamed : s.columns = []
      · rw [if_pos hnamed, if_pos ⟨rfl, hkeyless.mpr ⟨by omega, hnamed⟩⟩]
        rfl
      · rw [if_neg hnamed, if_neg fun h => hnamed (hkeyless.mp h.2).2]
        rfl

/-- An update is refused for its keys or its row, of which it sees the width. -/
theorem refusal_row (s : Update) (l : Outline) (hkeys : l.wildcards = s.keys.map (· == "*"))
    (hrows : l.widths = s.rows.map List.length) : refusal s.row = l.assignmentFault? := by
  have hwildcard : (l.wildcards = [] ∨ true ∈ l.wildcards) ↔ (s.keys = [] ∨ "*" ∈ s.keys) := by
    simp [hkeys]
  rw [Update.row, Outline.assignmentFault?, hrows, hkeys, List.length_map, ← hkeys]
  by_cases h : s.keys = [] ∨ "*" ∈ s.keys
  · rw [if_pos h, if_pos (hwildcard.mpr h)]
    rfl
  · rw [if_neg h, if_neg (hwildcard.not.mpr h)]
    match s.rows with
    | [] => rfl
    | [row] =>
      show refusal (if row.length = s.keys.length then _ else _) =
        if row.length = s.keys.length then _ else _
      split <;> rfl
    | first :: second :: rest =>
      simp [refusal]

/-- An update is refused for its table first, and then for its assignment. -/
theorem refusal_update (n : TableNaming) (s : Update) (l : Outline)
    (hkeys : l.wildcards = s.keys.map (· == "*")) (hrows : l.widths = s.rows.map List.length) :
    refusal (s.build n) =
      (refusal (requireName .update .table s.table)).or l.assignmentFault? := by
  rw [Update.build]
  refine refusal_bind fun table _ => ?_
  rw [← refusal_row s l hkeys hrows]
  exact refusal_map s.row _

theorem refusal_delete (n : TableNaming) (s : Delete) :
    refusal (s.build n) = refusal (requireName .delete .table s.table) :=
  refusal_map (requireName .delete .table s.table) _

/-- The creation of a table is refused for its name, then for missing columns, and then for the
first column with a fault. -/
theorem refusal_create (st : Style) (n : TableNaming) (s : CreateTable) :
    refusal (s.build st n) =
      (refusal (requireName .create .name s.name)).or
        ((if s.columns = [] then some (.missing .create .columns) else none).or
          (s.columns.findSome? Column.fault?)) := by
  have hcolumns : refusal (s.columns.mapM (Column.render st)) =
      s.columns.findSome? Column.fault? := by
    rw [refusal_mapM]
    simp only [refusal_column]
  rw [CreateTable.build]
  refine refusal_bind fun name _ => ?_
  rw [← hcolumns]
  by_cases h : s.columns = []
  · rw [if_pos h, if_pos h]
    rfl
  · rw [if_neg h, if_neg h]
    exact refusal_map (s.columns.mapM (Column.render st)) _

/-- Emptying a table is refused for its table only, in every dialect. -/
theorem refusal_truncate (d : Dialect) (n : TableNaming) (s : Truncate) :
    refusal (s.build d n) = refusal (requireName .truncate .table s.table) := by
  rw [Truncate.build, refusal_bind (r := none) ?_, Option.or_none]
  intro table _
  cases d <;> rfl

theorem refusal_drop (d : Dialect) (n : TableNaming) (s : DropTable) :
    refusal (s.build d n) = refusal (requireName .drop .table s.table) :=
  refusal_map (requireName .drop .table s.table) _

namespace Query

/-- The condition of a query is refused for the first of its literals with a fault. -/
theorem refusal_conditionSql (q : Query) :
    refusal q.conditionSql = q.fragments.outline.conditionFault? := by
  rw [conditionSql, Outline.conditionFault?]
  show _ = q.fragments.condition.bind _
  cases q.fragments.condition with
  | none => rfl
  | some c => exact (refusal_map (c.render q.style) _).trans (refusal_condition q.style c)

/-- **Why a statement is refused.** The checks of a statement look at the outline of the fragments
and at how the dialect inserts several rows, and the first one that fails is the error. -/
theorem refusal_template (q : Query) (o : Operation) (p : Parameters) :
    refusal (q.template o p) = q.fragments.outline.refusal q.dialect.multiRowForm p o := by
  cases o with
  | get =>
    rw [template_get, Outline.refusal, ← refusal_conditionSql]
    refine refusal_bind fun w _ => ?_
    rw [refusal_select]
    simp [Fragments.outline]
  | store => exact refusal_insert q.dialect _ _ q.fragments.outline rfl rfl
  | update =>
    rw [template_update, Outline.refusal, ← refusal_conditionSql]
    exact refusal_bind fun w _ => refusal_update _ _ q.fragments.outline rfl rfl
  | delete =>
    rw [template_delete, Outline.refusal, ← refusal_conditionSql]
    exact refusal_bind fun w _ => refusal_delete _ _
  | truncate => exact refusal_truncate q.dialect _ _
  | create => exact refusal_create q.style _ _
  | drop => exact refusal_drop q.dialect _ _

end Query

namespace Session

/-- A build is refused for what the outline of the fragments shows, whatever the style is. -/
theorem refusal_perform_build (s : Session) (o : Operation) (p : Parameters) :
    refusal (s.perform (.build o p)).1 =
      s.query.fragments.outline.refusal s.query.dialect.multiRowForm p o := by
  rw [perform_build_answer, refusal_map, Query.sql_eq_map, refusal_map, Query.refusal_template]

end Session

end DialectSql
