import Mathlib.Data.Multiset.Dedup

/-!
# Reading the rows of an insertion

A database takes the rows of an insertion from a list of values or from a union of selections. The
machine below reads a statement one lexeme a step. It collects the rows with whether duplicates are
removed when a row is put to those in front of it, and `inserted` is the multiset of rows that
comes of it: a list of values and `UNION ALL` keep every row, and `UNION` keeps one copy of equal
rows. A value is an atom, whose text is not looked into; which values are equal is left open.

The machine does not know how insertions are written.
-/

set_option autoImplicit false

namespace DialectSql.RowReader

/-- What an insertion consists of. -/
inductive Lexeme where
  /-- A name or a value. -/
  | atom (text : String)
  | insertInto
  | values
  | select
  | fromDual
  | union
  | unionAll
  /-- The word between a value and the name of its column. -/
  | named
  | opening
  | closing
  | comma
  | blank
deriving DecidableEq, Repr

/-- The text of a lexeme. -/
def Lexeme.text : Lexeme → String
  | atom s => s
  | insertInto => "INSERT INTO"
  | values => "VALUES"
  | select => "SELECT"
  | fromDual => "FROM DUAL"
  | union => "UNION"
  | unionAll => "UNION ALL"
  | named => "AS"
  | opening => "("
  | closing => ")"
  | comma => ","
  | blank => " "

/-- Where the machine is in a statement. -/
inductive Place where
  | start
  /-- In front of the name of the table. -/
  | table
  /-- Behind the name of the table. -/
  | target
  /-- In the list of columns. -/
  | columns
  /-- Behind the list of columns. -/
  | source
  /-- In front of a row of a list of values. -/
  | tuple
  /-- In front of a value of a row. -/
  | cell
  /-- Behind a value of a row. -/
  | cellEnd
  /-- Behind a row of a list of values. -/
  | tupleEnd
  /-- In front of a selection, which is put to those in front of it with or without duplicates. -/
  | operand (distinct : Bool)
  /-- In front of a value of a selection. -/
  | item
  /-- Behind a value of a selection. -/
  | itemEnd
  /-- In front of the name of a column of a selection. -/
  | label
  /-- Behind a selection with a table. -/
  | operandEnd
deriving DecidableEq, Repr

/-- Whether a statement can end at the place. -/
def Place.isEnd : Place → Bool
  | tupleEnd | itemEnd | operandEnd => true
  | _ => false

variable {V : Type}

/-- A statement as far as it has been read: the place and the rows, the latest first, each with
whether duplicates are removed when it is put to those in front of it. -/
structure Reading (V : Type) where
  place : Place
  rows : List (Bool × List V)

/-- The rows after one more value of the latest row. -/
def extend (v : V) : List (Bool × List V) → List (Bool × List V)
  | [] => []
  | (distinct, row) :: earlier => (distinct, row ++ [v]) :: earlier

/-- The machine reads one lexeme. -/
def step (value : String → V) (r : Reading V) (l : Lexeme) : Option (Reading V) :=
  match r.place, l with
  | _, .blank => some r
  | .start, .insertInto => some { r with place := .table }
  | .table, .atom _ => some { r with place := .target }
  | .target, .opening => some { r with place := .columns }
  | .columns, .atom _ | .columns, .comma => some r
  | .columns, .closing => some { r with place := .source }
  | .target, .values | .source, .values => some { r with place := .tuple }
  | .tuple, .opening => some ⟨.cell, (false, []) :: r.rows⟩
  | .cell, .atom s => some ⟨.cellEnd, extend (value s) r.rows⟩
  | .cellEnd, .comma => some { r with place := .cell }
  | .cellEnd, .closing => some { r with place := .tupleEnd }
  | .tupleEnd, .comma => some { r with place := .tuple }
  | .target, .select | .source, .select => some ⟨.item, (false, []) :: r.rows⟩
  | .operand distinct, .select => some ⟨.item, (distinct, []) :: r.rows⟩
  | .item, .atom s => some ⟨.itemEnd, extend (value s) r.rows⟩
  | .itemEnd, .comma => some { r with place := .item }
  | .itemEnd, .named => some { r with place := .label }
  | .label, .atom _ => some { r with place := .itemEnd }
  | .itemEnd, .fromDual => some { r with place := .operandEnd }
  | .itemEnd, .union | .operandEnd, .union => some { r with place := .operand true }
  | .itemEnd, .unionAll | .operandEnd, .unionAll => some { r with place := .operand false }
  | _, _ => none

/-- The machine reads lexemes one after the other. -/
def run (value : String → V) (r : Reading V) (ls : List Lexeme) : Option (Reading V) :=
  ls.foldlM (step value) r

variable [DecidableEq V]

/-- The rows that are inserted. -/
def inserted : List (Bool × List V) → Multiset (List V)
  | [] => 0
  | (distinct, row) :: earlier =>
      if distinct then (row ::ₘ inserted earlier).dedup else row ::ₘ inserted earlier

/-- The rows that a statement inserts. -/
def readRows (value : String → V) (ls : List Lexeme) : Option (Multiset (List V)) :=
  match run value ⟨.start, []⟩ ls with
  | some r => if r.place.isEnd then some (inserted r.rows) else none
  | none => none

/-! ## Runs over lists put together from parts -/

section Run

omit [DecidableEq V]

variable (value : String → V)

@[simp] theorem run_nil (r : Reading V) : run value r [] = some r := rfl

@[simp] theorem run_cons (r : Reading V) (l : Lexeme) (ls : List Lexeme) :
    run value r (l :: ls) = (step value r l).bind (run value · ls) := rfl

/-- A run goes on where the one before has come. -/
theorem run_append {r r' : Reading V} {ls : List Lexeme} (h : run value r ls = some r')
    (ms : List Lexeme) : run value r (ls ++ ms) = run value r' ms := by
  unfold run at h ⊢
  rw [List.foldlM_append, h]
  rfl

/-- A list of parts with a separator between them is read part by part: what is known of a part in
its place and of a separator behind a part carries over to the list. -/
theorem run_intercalate {α β : Type} {f : α → List Lexeme} {sep : List Lexeme}
    (before after : β → Reading V) (add : β → α → β) {items : List α}
    (hf : ∀ b, ∀ a ∈ items, run value (before b) (f a) = some (after (add b a)))
    (hsep : ∀ b a, run value (after (add b a)) sep = some (before (add b a)))
    (hne : items ≠ []) (b : β) :
    run value (before b) (sep.intercalate (items.map f)) =
      some (after (items.foldl add b)) := by
  induction items generalizing b with
  | nil => exact absurd rfl hne
  | cons a items ih =>
    -- What has been read so far is general: each part leaves another state to the next one.
    have hfirst := hf b a List.mem_cons_self
    by_cases hrest : items = []
    · subst hrest
      simpa using hfirst
    · have hrest' : items.map f ≠ [] := by simpa using hrest
      rw [List.map_cons, List.intercalate_cons_of_ne_nil hrest', List.append_assoc,
        run_append value hfirst, run_append value (hsep b a),
        ih (fun b x hx => hf b x (List.mem_cons_of_mem _ hx)) hrest, List.foldl_cons]

/-- Values that are added to a row stand behind its others. -/
theorem foldl_extend (vs : List V) (distinct : Bool) (row : List V)
    (earlier : List (Bool × List V)) :
    vs.foldl (fun rows v => extend v rows) ((distinct, row) :: earlier) =
      (distinct, row ++ vs) :: earlier := by
  induction vs generalizing row with
  | nil => simp
  | cons v vs ih =>
    rw [List.foldl_cons, extend, ih, List.append_assoc]
    rfl

end Run

/-! ## What is inserted -/

/-- Rows that are put to others with their duplicates are inserted all. -/
theorem inserted_foldl_false (rows : List (List V)) (earlier : List (Bool × List V)) :
    inserted (rows.foldl (fun earlier row => (false, row) :: earlier) earlier) =
      ↑rows + inserted earlier := by
  induction rows generalizing earlier with
  | nil => simp
  | cons row rows ih =>
    rw [List.foldl_cons, ih, inserted, if_neg Bool.false_ne_true, ← Multiset.cons_coe,
      Multiset.add_cons, Multiset.cons_add]

/-- Of rows that are put to others without duplicates one copy each is inserted. -/
theorem inserted_foldl_true (rows : List (List V)) {earlier : List (Bool × List V)}
    (h : (inserted earlier).Nodup) :
    inserted (rows.foldl (fun earlier row => (true, row) :: earlier) earlier) =
      (↑rows + inserted earlier).dedup := by
  induction rows generalizing earlier with
  | nil => simpa using h.dedup.symm
  | cons row rows ih =>
    have hnext : inserted ((true, row) :: earlier) = (row ::ₘ inserted earlier).dedup :=
      if_pos rfl
    -- Duplicates are removed row by row here and at once on the right, so the members decide.
    rw [List.foldl_cons, ih (by rw [hnext]; exact Multiset.nodup_dedup _), hnext,
      Multiset.dedup_ext]
    intro x
    simp only [Multiset.mem_add, Multiset.mem_dedup, Multiset.mem_cons, Multiset.mem_coe,
      List.mem_cons]
    tauto

end DialectSql.RowReader
