import DialectSql.Proofs.BooleanReader
import DialectSql.Proofs.Text.Spelling
import Mathlib.Data.List.Forall2

/-!
# Expressions as they are written

An `Expression` is written with `AND`, `OR` and parentheses: the parentheses stand where they are
written and nowhere else, so an expression is not the tree that a database reads. `lexemes` are its
lexemes under an assignment of truth values to its predicates, and `AreWritten` says in which texts
they are written: words in any case, and any blanks around words and parentheses.

`Expression.readFrom` says what reading an expression adds to what has been read before it
(`readOperand_lexemes`). Without an `OR` outside of parentheses the expression is one more operand
of the conjunction (`readFrom_of_not_hasOuterOr`). Behind such an `OR` the conjunction begins anew,
and what has been read in front of it does not count (`conjunction_readFrom_true`).
-/

set_option autoImplicit false

namespace DialectSql

open BooleanReader Text

/-! ## Assignments -/

/-- One of the two conditions that are joined. -/
inductive Side where
  | left
  | right
deriving DecidableEq, Repr

/-- A truth value for each leaf of a tree, which is found by the way to it from the root. Two leaves
with the same predicate may have different values. -/
abbrev Assignment := List Side → Bool

/-- The assignment to the leaves of one side. -/
def Assignment.on (v : Assignment) (side : Side) : Assignment := fun path => v (side :: path)

/-- The same truth value for all leaves. -/
def Assignment.constant (b : Bool) : Assignment := fun _ => b

/-- The assignment that is the given one on each side. -/
def Assignment.join (left right : Assignment) : Assignment
  | .left :: path => left path
  | .right :: path => right path
  | [] => false

theorem Assignment.constant_on (b : Bool) (side : Side) :
    (constant b).on side = constant b := rfl

theorem Assignment.join_left (left right : Assignment) : (join left right).on .left = left := rfl

theorem Assignment.join_right (left right : Assignment) : (join left right).on .right = right := rfl

/-! ## Texts of lexemes -/

/-- Whether a text is a way to write a lexeme. The case of a word does not matter, nor do blanks
around words and parentheses; a predicate is written as it is. -/
def BooleanReader.Lexeme.IsWritten : Lexeme → String → Prop
  | .atom s _, text => text = s
  | .connective k, text => Connective.ofText? text = some k
  | .opening, text => trim text = "("
  | .closing, text => trim text = ")"

instance (l : Lexeme) (text : String) : Decidable (l.IsWritten text) :=
  match l with
  | .atom s _ => inferInstanceAs (Decidable (text = s))
  | .connective k => inferInstanceAs (Decidable (Connective.ofText? text = some k))
  | .opening => inferInstanceAs (Decidable (trim text = "("))
  | .closing => inferInstanceAs (Decidable (trim text = ")"))

/-- Whether lexemes can be written one after the other to make up a text. -/
def AreWritten (ls : List Lexeme) (text : String) : Prop :=
  ∃ parts, List.Forall₂ Lexeme.IsWritten ls parts ∧ text = String.join parts

namespace AreWritten

/-- Two texts of lexemes make a text of all of them. -/
theorem append {ls ms : List Lexeme} {s t : String} (hl : AreWritten ls s) (hm : AreWritten ms t) :
    AreWritten (ls ++ ms) (s ++ t) := by
  obtain ⟨parts, hparts, rfl⟩ := hl
  obtain ⟨parts', hparts', rfl⟩ := hm
  exact ⟨parts ++ parts', List.rel_append hparts hparts', String.join_append.symm⟩

/-- Lists of lexemes with a separator between them spell their texts with its text between them. -/
theorem intercalate {separator : List Lexeme} {s : String} (hseparator : AreWritten separator s)
    {lists : List (List Lexeme)} {texts : List String} (h : List.Forall₂ AreWritten lists texts) :
    AreWritten (separator.intercalate lists) (s.intercalate texts) := by
  induction h with
  | nil => exact ⟨[], .nil, rfl⟩
  | cons hfirst hrest ih =>
    cases hrest with
    | nil => simpa using hfirst
    | cons hsecond hrest =>
      rw [List.intercalate_cons_cons, String.intercalate_cons_cons]
      exact (hfirst.append hseparator).append ih

/-- Every lexeme has a text of its own, which is one of the ways to write it. -/
theorem of_spelled {ls : List Lexeme} {text : String} (h : spelled Lexeme.text ls = text) :
    AreWritten ls text := by
  refine ⟨ls.map Lexeme.text, ?_, h.symm⟩
  rw [List.forall₂_map_right_iff, List.forall₂_same]
  intro l _
  cases l with
  | atom s b => rfl
  | connective k => cases k <;> decide
  | opening => decide
  | closing => decide

end AreWritten

/-! ## Expressions -/

/-- An expression as it is written. A predicate is a text, which is not looked into. -/
inductive Expression where
  | atom (text : String)
  | enclosed (body : Expression)
  | joined (left : Expression) (k : Connective) (right : Expression)
deriving DecidableEq, Repr

namespace Expression

/-- The lexemes of an expression, with the truth values of its predicates. -/
def lexemes : Expression → Assignment → List Lexeme
  | atom text, v => [.atom text (v [])]
  | enclosed body, v => [.opening] ++ body.lexemes v ++ [.closing]
  | joined left k right, v =>
      left.lexemes (v.on .left) ++ [.connective k] ++ right.lexemes (v.on .right)

/-- The reading after an expression has been read in the course of another one. -/
def readFrom : Expression → Assignment → Reading → Reading
  | atom _, v, s => s.operand (v [])
  | enclosed body, v, s => s.operand (body.readFrom v {}).value
  | joined left k right, v, s =>
      right.readFrom (v.on .right) ((left.readFrom (v.on .left) s).connective k)

/-- The truth value of an expression. -/
def value (e : Expression) (v : Assignment) : Bool := (e.readFrom v {}).value

/-- Whether there is an `OR` outside of all parentheses. -/
def hasOuterOr : Expression → Bool
  | atom _ => false
  | enclosed _ => false
  | joined left k right => k == .or || left.hasOuterOr || right.hasOuterOr

/-- The lexemes of an expression take the reader from an operand to a connective. -/
theorem readOperand_lexemes (e : Expression) (v : Assignment) (around : List Reading) (s : Reading)
    (rest : List Lexeme) :
    readOperand around s (e.lexemes v ++ rest) = readConnective around (e.readFrom v s) rest := by
  -- The rest of the text is general, since the right side of an expression follows the left one.
  induction e generalizing v around s rest with
  | atom text => rfl
  | enclosed body ih =>
    simp only [lexemes, List.append_assoc, List.cons_append, List.nil_append]
    rw [readOperand, ih, readConnective]
    rfl
  | joined left k right ihl ihr =>
    rw [lexemes, List.append_assoc, List.append_assoc, ihl, List.singleton_append, readConnective,
      ihr]
    rfl

/-- An expression is read as its value. -/
theorem readExpression_lexemes (e : Expression) (v : Assignment) :
    readExpression (e.lexemes v) = some (e.value v) := by
  have hread := e.readOperand_lexemes v [] {} []
  rw [List.append_nil] at hread
  rw [readExpression, hread]
  rfl

/-! ## What comes before an expression -/

/-- An alternative that has been read before stays one. -/
theorem readFrom_withAlternative (e : Expression) (v : Assignment) (b : Bool) (s : Reading) :
    e.readFrom v (s.withAlternative b) = (e.readFrom v s).withAlternative b := by
  induction e generalizing v s with
  | atom text => rfl
  | enclosed body _ => rfl
  | joined left k right ihl ihr =>
    rw [readFrom, readFrom, ihl, Reading.connective_withAlternative, ihr]

/-- Without an outer `OR` an expression is one more operand of the conjunction. -/
theorem readFrom_of_not_hasOuterOr {e : Expression} (h : e.hasOuterOr = false) (v : Assignment)
    (s : Reading) : e.readFrom v s = s.operand (e.value v) := by
  induction e generalizing v s with
  | atom text => simp [readFrom, Reading.operand, value, Reading.value]
  | enclosed body _ => simp [readFrom, Reading.operand, value, Reading.value]
  | joined left k right ihl ihr =>
    simp only [hasOuterOr, Bool.or_eq_false_iff] at h
    obtain ⟨⟨hk, hl⟩, hr⟩ := h
    cases k with
    | or => cases hk
    | and =>
      rw [value, readFrom, readFrom, ihl hl, ihl hl, ihr hr, ihr hr]
      simp [Reading.connective, Reading.operand, Reading.value, Bool.and_assoc]

/-- Parentheses do not change what is read between them. -/
theorem value_enclosed (body : Expression) (v : Assignment) :
    (enclosed body).value v = body.value v := by
  simp [value, readFrom, Reading.operand, Reading.value]

/-- Two expressions are read apart unless an `AND` stands next to an outer `OR`. -/
theorem value_joined {left right : Expression} {k : Connective}
    (h : (k == .or || !(left.hasOuterOr || right.hasOuterOr)) = true) (v : Assignment) :
    (joined left k right).value v =
      k.combine (left.value (v.on .left)) (right.value (v.on .right)) := by
  cases k with
  | or =>
    have hstart : (left.readFrom (v.on .left) {}).connective .or =
        Reading.withAlternative (left.value (v.on .left)) {} := by
      simp [Reading.connective, Reading.withAlternative, value]
    rw [value, readFrom, hstart, readFrom_withAlternative, Reading.value_withAlternative]
    rfl
  | and =>
    simp only [Bool.not_or, Bool.or_eq_true, Bool.and_eq_true, Bool.not_eq_true'] at h
    obtain ⟨hl, hr⟩ := h.resolve_left (by decide)
    rw [value, readFrom, readFrom_of_not_hasOuterOr hl, readFrom_of_not_hasOuterOr hr]
    simp [Reading.connective, Reading.operand, Reading.value, Connective.combine]

/-! ## Where all predicates have the same value -/

/-- Where no predicate holds, an expression is a false operand. -/
theorem readFrom_false (e : Expression) (s : Reading) :
    e.readFrom (.constant false) s = s.operand false := by
  induction e generalizing s with
  | atom text => rfl
  | enclosed body ih =>
    rw [readFrom, ih]
    rfl
  | joined left k right ihl ihr =>
    rw [readFrom, Assignment.constant_on, Assignment.constant_on, ihl, ihr]
    cases k with
    | and => simp [Reading.connective, Reading.operand]
    | or => simp [Reading.connective, Reading.operand, Reading.value]

/-- Where all predicates hold, an outer `OR` closes a conjunction that holds. -/
theorem readFrom_true (e : Expression) (b : Bool) :
    e.readFrom (.constant true) { alternatives := b } = { alternatives := b || e.hasOuterOr } := by
  induction e generalizing b with
  | atom text => simp [readFrom, Reading.operand, hasOuterOr, Assignment.constant]
  | enclosed body ih =>
    rw [readFrom, ih]
    simp [Reading.operand, Reading.value, hasOuterOr]
  | joined left k right ihl ihr =>
    rw [readFrom, Assignment.constant_on, Assignment.constant_on, ihl]
    cases k with
    | and =>
      have hk : (Connective.and == .or) = false := rfl
      rw [Reading.connective, ihr]
      simp [hasOuterOr, hk, Bool.or_assoc]
    | or =>
      rw [Reading.connective, ihr]
      simp [Reading.value, hasOuterOr]

/-- Where all predicates have one value, an expression has it too. -/
theorem value_constant (e : Expression) (b : Bool) : e.value (.constant b) = b := by
  cases b with
  | false => rw [value, readFrom_false]; rfl
  | true => rw [value, readFrom_true, Reading.value, Bool.or_true]

/-- Behind an outer `OR` a conjunction begins anew, whatever has been read before. -/
theorem conjunction_readFrom_true {e : Expression} (h : e.hasOuterOr = true) (s : Reading) :
    (e.readFrom (.constant true) s).conjunction = true := by
  induction e generalizing s with
  | atom text => cases h
  | enclosed body _ => cases h
  | joined left k right ihl ihr =>
    rw [readFrom, Assignment.constant_on, Assignment.constant_on]
    cases k with
    | or => rw [Reading.connective, readFrom_true]
    | and =>
      -- The outer `OR` is in the left side, and the right one holds, or it is in the right side.
      rcases Bool.or_eq_true_iff.mp h with hl | hr
      · have hleft : (left.readFrom (.constant true) s).connective .and =
            { alternatives := (left.readFrom (.constant true) s).alternatives } :=
          congrArg (Reading.mk _) (ihl hl s)
        rw [hleft, readFrom_true]
      · exact ihr hr _

end Expression

end DialectSql
