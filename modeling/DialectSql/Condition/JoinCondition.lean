import DialectSql.Condition.Tree

/-!
# Join conditions

The condition of a join compares columns with columns. Its terms are joined from left to right
without parentheses and are written as they are given, but for the blanks around the columns.
-/

set_option autoImplicit false

namespace DialectSql

open Text

/-- No condition, or a first term and the further terms, each after its connective. -/
inductive JoinCondition where
  | none
  | terms (first : String) (rest : List (Connective × String))
deriving DecidableEq, Repr

namespace JoinCondition

/-- One comparison of two columns; the operator is read before the columns are looked at. -/
def term (first operator second : String) : Except Error String := do
  let o ← Comparison.parse operator
  if trim first = "" ∨ trim second = "" then throw (.invalidCondition .needsTwoColumns)
  return trim first ++ o.symbol ++ trim second

/-- The condition after a further term; the first term has no connective. -/
def push (k : Connective) (term : String) : JoinCondition → JoinCondition
  | none => terms term []
  | terms first rest => terms first (rest ++ [(k, term)])

/-- The condition after a term has been put to those already there. -/
def attach (a : Attachment) (term : String) (j : JoinCondition) : JoinCondition :=
  match a with
  | .replace => terms term []
  | .join k => j.push k term

/-- Whether there is no term. -/
def isEmpty : JoinCondition → Bool
  | none => true
  | terms _ _ => false

/-- The terms with their connectives between them, unless there is none. -/
def render? : JoinCondition → Option String
  | none => Option.none
  | terms first rest =>
      some (rest.foldl (fun text (k, term) => text ++ " " ++ k.keyword ++ " " ++ term) first)

end JoinCondition

end DialectSql
