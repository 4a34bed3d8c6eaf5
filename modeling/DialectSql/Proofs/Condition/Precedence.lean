import DialectSql.Condition.Tree
import DialectSql.Proofs.BooleanExpression
import DialectSql.Proofs.Query.Outcome

/-!
# What the text of a condition means

A condition is a tree, and `Condition.holds` is its truth value under an assignment to its leaves. A
database does not see the tree: it reads the text by the precedence of `AND` over `OR`. Only a group
has parentheses, so an `OR` outside of all groups of an operand (`hasOuterOr`) comes apart from that
operand where an `AND` stands next to it.

`Condition.lexemes` gives the lexemes that spell the text (`render_eq_spelled`) and
`Condition.precedenceValue` what a database makes of them (`readExpression_lexemes`). It is what it
makes of the expression that the condition is written as (`precedenceValue_eq`). The main
statement `read_rendered_iff` says that every text is read as one expression, and that its value is
that of the tree under all assignments exactly if no `AND` has an operand with an outer `OR`
(`isBound`).
-/

set_option autoImplicit false

namespace DialectSql

open BooleanReader Text

/-! ## Conditions under an assignment -/

namespace Condition

/-- The truth value of a tree: each connective joins the values of its two sides. -/
def holds : Condition → Assignment → Bool
  | leaf _, v => v []
  | group left k right, v => k.combine (left.holds (v.on .left)) (right.holds (v.on .right))
  | chain left k right, v => k.combine (left.holds (v.on .left)) (right.holds (v.on .right))

/-- The lexemes of the text of a condition. A predicate is one lexeme, whatever its text is. -/
def lexemes (st : Style) : Condition → Assignment → Except Error (List Lexeme)
  | leaf p, v => do return [.atom (← p.render st) (v [])]
  | group left k right, v => do
      return [.opening] ++ (← left.lexemes st (v.on .left)) ++ [.connective k] ++
        (← right.lexemes st (v.on .right)) ++ [.closing]
  | chain left k right, v => do
      return (← left.lexemes st (v.on .left)) ++ [.connective k] ++
        (← right.lexemes st (v.on .right))

/-- The text of a condition is spelled by its lexemes, whatever the values of its predicates are. -/
theorem render_eq_spelled (st : Style) (c : Condition) (v : Assignment) :
    c.render st = (c.lexemes st v).map (spelled Lexeme.text) := by
  induction c generalizing v with
  | leaf p =>
    show p.render st = Except.map _ (p.render st >>= _)
    cases p.render st with
    | error e => rfl
    | ok text => exact congrArg Except.ok (by simp [Lexeme.text])
  | group left k right ihl ihr =>
    rw [render, lexemes, ihl (v.on .left), ihr (v.on .right)]
    cases left.lexemes st (v.on .left) with
    | error e => rfl
    | ok ls =>
      cases right.lexemes st (v.on .right) with
      | error e => rfl
      | ok rs => exact congrArg Except.ok (by simp [Lexeme.text, String.append_assoc])
  | chain left k right ihl ihr =>
    rw [render, lexemes, ihl (v.on .left), ihr (v.on .right)]
    cases left.lexemes st (v.on .left) with
    | error e => rfl
    | ok ls =>
      cases right.lexemes st (v.on .right) with
      | error e => rfl
      | ok rs => exact congrArg Except.ok (by simp [Lexeme.text, String.append_assoc])

/-! ## What a database reads -/

/-- The reading after a condition has been read in the course of an expression. -/
def readFrom : Condition → Assignment → Reading → Reading
  | leaf _, v, s => s.operand (v [])
  | group left k right, v, s =>
      s.operand (right.readFrom (v.on .right)
        ((left.readFrom (v.on .left) {}).connective k)).value
  | chain left k right, v, s =>
      right.readFrom (v.on .right) ((left.readFrom (v.on .left) s).connective k)

/-- The truth value of the text of a condition. -/
def precedenceValue (c : Condition) (v : Assignment) : Bool := (c.readFrom v {}).value

/-- The lexemes of a condition take the reader from an operand to a connective. -/
theorem readOperand_lexemes {st : Style} {c : Condition} {v : Assignment} {ls : List Lexeme}
    (h : c.lexemes st v = .ok ls) (around : List Reading) (s : Reading) (rest : List Lexeme) :
    readOperand around s (ls ++ rest) = readConnective around (c.readFrom v s) rest := by
  -- The rest of the text is general, since the right side of a tree follows the left one.
  induction c generalizing v ls around s rest with
  | leaf p =>
    obtain ⟨text, -, hls⟩ := exists_of_bind_eq_ok h
    obtain rfl := Except.ok.inj hls
    rfl
  | group left k right ihl ihr =>
    obtain ⟨l, hl, hrest⟩ := exists_of_bind_eq_ok h
    obtain ⟨r, hr, hls⟩ := exists_of_bind_eq_ok hrest
    obtain rfl := Except.ok.inj hls
    simp only [List.append_assoc, List.cons_append, List.nil_append]
    rw [readOperand, ihl hl, readConnective, ihr hr, readConnective]
    rfl
  | chain left k right ihl ihr =>
    obtain ⟨l, hl, hrest⟩ := exists_of_bind_eq_ok h
    obtain ⟨r, hr, hls⟩ := exists_of_bind_eq_ok hrest
    obtain rfl := Except.ok.inj hls
    rw [List.append_assoc, List.append_assoc, ihl hl, List.singleton_append, readConnective,
      ihr hr]
    rfl

/-- The text of a condition is one expression. -/
theorem readExpression_lexemes {st : Style} {c : Condition} {v : Assignment} {ls : List Lexeme}
    (h : c.lexemes st v = .ok ls) : readExpression ls = some (c.precedenceValue v) := by
  have hread := readOperand_lexemes h [] {} []
  rw [List.append_nil] at hread
  rw [readExpression, hread]
  rfl

/-! ## Where the text and the tree agree -/

/-- Whether there is an `OR` outside of all groups. -/
def hasOuterOr : Condition → Bool
  | leaf _ => false
  | group _ _ _ => false
  | chain left k right => k == .or || left.hasOuterOr || right.hasOuterOr

/-- Whether no operand of an `AND` has an outer `OR`. The sides of a group are operands as well: the
parentheses stand around both of them. -/
def isBound : Condition → Bool
  | leaf _ => true
  | group left k right =>
      left.isBound && right.isBound && (k == .or || !(left.hasOuterOr || right.hasOuterOr))
  | chain left k right =>
      left.isBound && right.isBound && (k == .or || !(left.hasOuterOr || right.hasOuterOr))

/-- The expression that a condition is written as: a group stands in parentheses. What the
predicates are does not matter to the reader. -/
def asExpression : Condition → Expression
  | leaf p => .atom p.column
  | group left k right => .enclosed (.joined left.asExpression k right.asExpression)
  | chain left k right => .joined left.asExpression k right.asExpression

/-- A condition is read as the expression of its text. -/
theorem readFrom_eq (c : Condition) (v : Assignment) (s : Reading) :
    c.readFrom v s = c.asExpression.readFrom v s := by
  induction c generalizing v s with
  | leaf p => rfl
  | group left k right ihl ihr =>
    rw [readFrom, ihl, ihr]
    rfl
  | chain left k right ihl ihr =>
    rw [readFrom, ihl, ihr]
    rfl

theorem precedenceValue_eq (c : Condition) (v : Assignment) :
    c.precedenceValue v = c.asExpression.value v := by
  rw [precedenceValue, readFrom_eq, Expression.value]

theorem hasOuterOr_eq (c : Condition) : c.hasOuterOr = c.asExpression.hasOuterOr := by
  induction c with
  | leaf p => rfl
  | group left k right _ _ => rfl
  | chain left k right ihl ihr =>
    rw [hasOuterOr, ihl, ihr]
    rfl

/-- The parentheses of a group do not change what is read between them. -/
theorem precedenceValue_group (left right : Condition) (k : Connective) (v : Assignment) :
    (group left k right).precedenceValue v = (chain left k right).precedenceValue v := by
  rw [precedenceValue_eq, precedenceValue_eq]
  exact Expression.value_enclosed _ v

/-- Two conditions are read apart unless an `AND` stands next to an outer `OR`. -/
theorem precedenceValue_chain {left right : Condition} {k : Connective}
    (h : (k == .or || !(left.hasOuterOr || right.hasOuterOr)) = true) (v : Assignment) :
    (chain left k right).precedenceValue v =
      k.combine (left.precedenceValue (v.on .left)) (right.precedenceValue (v.on .right)) := by
  rw [hasOuterOr_eq, hasOuterOr_eq] at h
  rw [precedenceValue_eq, precedenceValue_eq, precedenceValue_eq]
  exact Expression.value_joined h v

/-- A condition in which no operand of an `AND` has an outer `OR` is read as it is meant. -/
theorem precedenceValue_eq_holds {c : Condition} (h : c.isBound = true) (v : Assignment) :
    c.precedenceValue v = c.holds v := by
  induction c generalizing v with
  | leaf p => simp [precedenceValue, readFrom, Reading.operand, Reading.value, holds]
  | group left k right ihl ihr =>
    obtain ⟨hsides, hk⟩ := Bool.and_eq_true_iff.mp h
    obtain ⟨hl, hr⟩ := Bool.and_eq_true_iff.mp hsides
    rw [precedenceValue_group, precedenceValue_chain hk, ihl hl, ihr hr, holds]
  | chain left k right ihl ihr =>
    obtain ⟨hsides, hk⟩ := Bool.and_eq_true_iff.mp h
    obtain ⟨hl, hr⟩ := Bool.and_eq_true_iff.mp hsides
    rw [precedenceValue_chain hk, ihl hl, ihr hr, holds]

/-! ## Where they do not agree -/

theorem holds_constant (c : Condition) (b : Bool) : c.holds (.constant b) = b := by
  induction c with
  | leaf p => rfl
  | group left k right ihl ihr =>
    rw [holds, Assignment.constant_on, Assignment.constant_on, ihl, ihr, Connective.combine_self]
  | chain left k right ihl ihr =>
    rw [holds, Assignment.constant_on, Assignment.constant_on, ihl, ihr, Connective.combine_self]

theorem precedenceValue_constant (c : Condition) (b : Bool) :
    c.precedenceValue (.constant b) = b := by
  rw [precedenceValue_eq, Expression.value_constant]

/-- An operand of an `AND` with an outer `OR` can make the text true where the tree is false. -/
theorem exists_ne_of_hasOuterOr {left right : Condition}
    (h : (left.hasOuterOr || right.hasOuterOr) = true) :
    ∃ v, (chain left .and right).precedenceValue v ≠ (chain left .and right).holds v := by
  rcases Bool.or_eq_true_iff.mp h with hl | hr
  · refine ⟨.join (.constant true) (.constant false), ?_⟩
    rw [hasOuterOr_eq] at hl
    rw [precedenceValue, readFrom, holds, Assignment.join_left, Assignment.join_right,
      holds_constant, holds_constant, readFrom_eq, readFrom_eq, Expression.readFrom_true,
      Expression.readFrom_false, hl]
    decide
  · refine ⟨.join (.constant false) (.constant true), ?_⟩
    rw [hasOuterOr_eq] at hr
    rw [precedenceValue, readFrom, holds, Assignment.join_left, Assignment.join_right,
      holds_constant, holds_constant, readFrom_eq right, Reading.value,
      Expression.conjunction_readFrom_true hr, Bool.or_true]
    decide

/-- An assignment to one side under which it is misread goes on to the whole: the other side gets
the value that does not count. -/
theorem exists_ne_of_sides {left right : Condition} {k : Connective}
    (ihl : left.isBound = false → ∃ v, left.precedenceValue v ≠ left.holds v)
    (ihr : right.isBound = false → ∃ v, right.precedenceValue v ≠ right.holds v)
    (h : (chain left k right).isBound = false) :
    ∃ v, (chain left k right).precedenceValue v ≠ (chain left k right).holds v := by
  cases hk : (k == .or || !(left.hasOuterOr || right.hasOuterOr)) with
  | false =>
    obtain ⟨hand, houter⟩ := Bool.or_eq_false_iff.mp hk
    cases k with
    | or => cases hand
    | and => exact exists_ne_of_hasOuterOr (by rwa [Bool.not_eq_false'] at houter)
  | true =>
    rw [isBound, hk, Bool.and_true, Bool.and_eq_false_iff] at h
    rcases h with hl | hr
    · obtain ⟨v, hv⟩ := ihl hl
      refine ⟨.join v (.constant k.neutral), ?_⟩
      rwa [precedenceValue_chain hk, holds, Assignment.join_left, Assignment.join_right,
        precedenceValue_constant, holds_constant, Connective.combine_neutral,
        Connective.combine_neutral]
    · obtain ⟨v, hv⟩ := ihr hr
      refine ⟨.join (.constant k.neutral) v, ?_⟩
      rwa [precedenceValue_chain hk, holds, Assignment.join_left, Assignment.join_right,
        precedenceValue_constant, holds_constant, Connective.neutral_combine,
        Connective.neutral_combine]

/-- Any other condition has values under which it is read otherwise. -/
theorem exists_ne_of_not_isBound {c : Condition} (h : c.isBound = false) :
    ∃ v, c.precedenceValue v ≠ c.holds v := by
  induction c with
  | leaf p => cases h
  | group left k right ihl ihr =>
    obtain ⟨v, hv⟩ := exists_ne_of_sides ihl ihr h
    exact ⟨v, by rwa [precedenceValue_group]⟩
  | chain left k right ihl ihr => exact exists_ne_of_sides ihl ihr h

/-- **What the text of a condition means.** The text of every condition that can be written is read
as one expression. Its value is that of the tree under all assignments exactly if no `AND` of the
tree has an operand with an `OR` outside of all groups. -/
theorem read_rendered_iff {st : Style} {c : Condition} {text : String}
    (h : c.render st = .ok text) :
    (∀ v, ∃ ls b, c.lexemes st v = .ok ls ∧ spelled Lexeme.text ls = text ∧
        readExpression ls = some b) ∧
      ((∀ v ls, c.lexemes st v = .ok ls → readExpression ls = some (c.holds v)) ↔
        c.isBound = true) := by
  have hlexemes : ∀ v, ∃ ls, c.lexemes st v = .ok ls ∧ spelled Lexeme.text ls = text := by
    intro v
    rw [render_eq_spelled st c v] at h
    exact exists_of_map_eq_ok h
  constructor
  · intro v
    obtain ⟨ls, hls, htext⟩ := hlexemes v
    exact ⟨ls, _, hls, htext, readExpression_lexemes hls⟩
  · constructor
    · intro hread
      cases hbound : c.isBound with
      | true => rfl
      | false =>
        obtain ⟨v, hv⟩ := exists_ne_of_not_isBound hbound
        obtain ⟨ls, hls, -⟩ := hlexemes v
        have hvalue := hread v ls hls
        rw [readExpression_lexemes hls] at hvalue
        exact absurd (Option.some.inj hvalue) hv
    · intro hbound v ls hls
      rw [readExpression_lexemes hls, precedenceValue_eq_holds hbound]

/-- In a group the `OR` stays with its two sides. -/
theorem read_rendered_iff_group :
    let st := Style.standard .postgresql
    let a : Condition := leaf ⟨"a", .compare .equal, .scalar (.int 1), by decide, by decide, rfl⟩
    let b : Condition := leaf ⟨"b", .isNull true, .scalar .null, by decide, by decide, rfl⟩
    let c : Condition :=
      leaf ⟨"c", .between false, .range (.int 2) (.int 3), by decide, by decide, rfl⟩
    let condition := chain (group a .or b) .and c
    condition.render st = .ok "(a = 1 OR b IS NOT NULL) AND c BETWEEN 2 AND 3" ∧
      (∀ v, ∃ ls b, condition.lexemes st v = .ok ls ∧
        spelled Lexeme.text ls = "(a = 1 OR b IS NOT NULL) AND c BETWEEN 2 AND 3" ∧
        readExpression ls = some b) ∧
      ∀ v ls, condition.lexemes st v = .ok ls → readExpression ls = some (condition.holds v) := by
  intro st a b c condition
  have hrender : condition.render st = .ok "(a = 1 OR b IS NOT NULL) AND c BETWEEN 2 AND 3" := by
    rfl
  obtain ⟨hone, hiff⟩ := read_rendered_iff hrender
  exact ⟨hrender, hone, hiff.mpr rfl⟩

/-- Without a group the `AND` takes the last side of the `OR` away from it: where only the first of
three predicates holds, the tree is false and its text is true. -/
theorem rendered_or_and_ne_holds :
    let st := Style.standard .postgresql
    let a : Condition := leaf ⟨"a", .compare .equal, .scalar (.int 1), by decide, by decide, rfl⟩
    let b : Condition := leaf ⟨"b", .compare .equal, .scalar (.int 2), by decide, by decide, rfl⟩
    let c : Condition := leaf ⟨"c", .compare .equal, .scalar (.int 3), by decide, by decide, rfl⟩
    let condition := chain (chain a .or b) .and c
    let v : Assignment := fun path => path == [.left, .left]
    ∃ ls, condition.render st = .ok "a = 1 OR b = 2 AND c = 3" ∧ condition.lexemes st v = .ok ls ∧
      spelled Lexeme.text ls = "a = 1 OR b = 2 AND c = 3" ∧ readExpression ls = some true ∧
      condition.holds v = false := by
  intro st a b c condition v
  refine ⟨[.atom "a = 1" true, .connective .or, .atom "b = 2" false, .connective .and,
    .atom "c = 3" false], ?_, ?_, ?_, ?_, ?_⟩
  · rfl
  · rfl
  · decide
  · decide
  · rfl

end Condition

end DialectSql
