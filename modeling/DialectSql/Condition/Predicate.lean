import DialectSql.Style
import DialectSql.Reading

/-!
# Predicates on one column

A `Predicate` is a column, an operator and an operand that the operator accepts. It is made from
texts and a value by `Predicate.make`, which refuses a blank column and an operand of the wrong
shape, takes a text that spells the null value for it where only that is accepted, and takes a
list of two values for a range.
-/

set_option autoImplicit false

namespace DialectSql

open Text

/-- What a column is compared with: one value, several, or the bounds of a range. -/
inductive Operand where
  | scalar (value : Literal)
  | list (values : List Literal)
  | range (low high : Literal)
deriving DecidableEq

/-- The shape of an operand. -/
def Operand.shape : Operand → OperandShape
  | scalar _ => .scalar
  | list _ => .list
  | range _ _ => .range

/-- An operand as it stands after the operator: a list in parentheses, the bounds of a range with
`AND` between them. -/
def Operand.render (st : Style) : Operand → Except Error String
  | scalar v => st.literal v
  | list vs => do return "(" ++ ",".intercalate (← st.literals vs) ++ ")"
  | range low high => do return (← st.literal low) ++ " AND " ++ (← st.literal high)

namespace Operator

/-- Whether an operand may stand in a predicate with the operator: the null value for a null test,
a pattern other than the null value, at least one member, two bounds, or one value to compare. -/
def fits : Operator → Operand → Bool
  | compare _, .scalar _ => true
  | like _, .scalar v => v != .null
  | member _, .list vs => vs != []
  | between _, .range _ _ => true
  | isNull _, .scalar v => v == .null
  | _, _ => false

/-- The operand that the operator makes of the one given. -/
def accept : Operator → Operand → Except ConditionFault Operand
  | compare _, .scalar v => .ok (.scalar v)
  | like negated, .scalar v =>
      if v = .null then .error (.needsPattern (like negated)) else .ok (.scalar v)
  | member negated, .list vs =>
      if vs = [] then .error (.needsMembers (member negated)) else .ok (.list vs)
  | between _, .range low high => .ok (.range low high)
  | between _, .list [low, high] => .ok (.range low high)
  | between negated, .list _ => .error (.needsTwoBounds (between negated))
  | isNull negated, .scalar v =>
      if v.isNullLike then .ok (.scalar .null) else .error (.onlyNull (isNull negated))
  | o, v => .error (.wrongShape o v.shape)

/-- What an operator makes of an operand fits it. -/
theorem fits_of_accept {o : Operator} {v w : Operand} (h : o.accept v = .ok w) :
    o.fits w = true := by
  unfold accept at h
  split at h <;> (try split at h) <;> cases h <;> simp_all [fits]

end Operator

/-- A condition on one column. -/
@[ext]
structure Predicate where
  column : String
  operator : Operator
  operand : Operand
  column_trimmed : trim column = column
  column_ne_empty : column ≠ ""
  fits : operator.fits operand = true

namespace Predicate

instance : DecidableEq Predicate := fun _ _ => decidable_of_iff' _ Predicate.ext_iff

/-- The predicate of a column, an operator and a value, if they go together. -/
def make (column : String) (o : Operator) (v : Operand) : Except Error Predicate :=
  if hc : trim column = "" then .error (.invalidCondition .emptyColumn)
  else
    match hw : o.accept v with
    | .ok w => .ok ⟨trim column, o, w, trim_trim column, hc, Operator.fits_of_accept hw⟩
    | .error fault => .error (.invalidCondition fault)

/-- The column as an identifier, the operator and the operand, with spaces between them. -/
def render (st : Style) (p : Predicate) : Except Error String := do
  return st.dialect.identifier p.column ++ " " ++ p.operator.keyword ++ " " ++
    (← p.operand.render st)

end Predicate

end DialectSql
