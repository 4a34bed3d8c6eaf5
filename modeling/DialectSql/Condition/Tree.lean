import DialectSql.Condition.Predicate

/-!
# Conditions

A `Condition` is a tree of predicates. A group is written in parentheses; a chain, which arises when
a condition is added to those already there, is not.
-/

set_option autoImplicit false

namespace DialectSql

/-- A predicate, or two conditions joined by a connective. -/
inductive Condition where
  | leaf (predicate : Predicate)
  /-- Written in parentheses. -/
  | group (left : Condition) (connective : Connective) (right : Condition)
  /-- Written without parentheses. -/
  | chain (left : Condition) (connective : Connective) (right : Condition)
deriving DecidableEq

namespace Condition

/-- A condition on one column; the operator is read before the column is looked at. -/
def ofText (column operator : String) (operand : Operand) : Except Error Condition := do
  let o ← Operator.parse operator
  return leaf (← Predicate.make column o operand)

/-- The SQL of a condition; of several predicates that cannot be written the leftmost is the
error. -/
def render (st : Style) : Condition → Except Error String
  | leaf p => p.render st
  | group left k right => do
      return "(" ++ (← left.render st) ++ " " ++ k.keyword ++ " " ++ (← right.render st) ++ ")"
  | chain left k right => do
      return (← left.render st) ++ " " ++ k.keyword ++ " " ++ (← right.render st)

/-- The condition after another one has been added to those already there, if any. -/
def extend (root : Option Condition) (k : Connective) (next : Condition) : Condition :=
  match root with
  | none => next
  | some c => chain c k next

end Condition

/-- A condition given to a call: ready, or as the texts and the value of a predicate, which are
looked at in the course of the call. -/
inductive ConditionSource where
  | ready (condition : Condition)
  | predicate (column operator : String) (operand : Operand)

/-- The condition that is given. -/
def ConditionSource.condition : ConditionSource → Except Error Condition
  | ready c => .ok c
  | predicate column operator operand => Condition.ofText column operator operand

/-- The group of two conditions. The connective is read first, then the left condition. -/
def Condition.groupOf (left : ConditionSource) (connective : String) (right : ConditionSource) :
    Except Error Condition := do
  let k ← Connective.parse connective
  let l ← left.condition
  return group l k (← right.condition)

/-- How a term is put to those already there: it replaces them, or it is joined to them. -/
inductive Attachment where
  | replace
  | join (connective : Connective)
deriving DecidableEq, Repr

/-- The condition after a term has been put to those already there. -/
def Attachment.attach (a : Attachment) (root : Option Condition) (next : Condition) : Condition :=
  match a with
  | replace => next
  | join k => Condition.extend root k next

end DialectSql
