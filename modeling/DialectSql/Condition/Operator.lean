import DialectSql.Text.Vocabulary

/-!
# Operators of conditions

A condition on a column compares it with a value or between values. `Comparison` holds the seven
comparisons, which are also the operators between two columns of a join; `Operator` adds pattern
matching, membership, ranges and the test for the null value, each with its negation. `Connective`
joins two conditions.

An operator is shown by its keyword. It is read from a phrase, so blanks and case do not matter, and
a negated word may be written without the space.
-/

set_option autoImplicit false

namespace DialectSql

open Text

/-- A comparison of two values. -/
inductive Comparison where
  | equal
  | notEqual
  /-- Means the same as `notEqual` and is written in its own way. -/
  | lessOrGreater
  | greater
  | greaterOrEqual
  | less
  | lessOrEqual
deriving DecidableEq, Repr

namespace Comparison

/-- All comparisons. -/
def all : List Comparison :=
  [equal, notEqual, lessOrGreater, greater, greaterOrEqual, less, lessOrEqual]

/-- The sign of a comparison. -/
def symbol : Comparison → String
  | equal => "="
  | notEqual => "!="
  | lessOrGreater => "<>"
  | greater => ">"
  | greaterOrEqual => ">="
  | less => "<"
  | lessOrEqual => "<="

/-- Each comparison is known by its sign only. -/
def spellings : Vocabulary Comparison := all.map fun c => (c.symbol, c)

/-- The comparison that a text names, whatever the blanks around it. -/
def ofText? (s : String) : Option Comparison := spellings.ofSign? s

@[simp] theorem ofText?_symbol (c : Comparison) : ofText? c.symbol = some c := by
  cases c <;> decide

end Comparison

/-- What a condition on one column says about it. -/
inductive Operator where
  | compare (comparison : Comparison)
  | like (negated : Bool)
  | member (negated : Bool)
  | between (negated : Bool)
  | isNull (negated : Bool)
deriving DecidableEq, Repr

namespace Operator

/-- All operators. -/
def all : List Operator :=
  Comparison.all.map compare ++
    [like false, like true, member false, member true, between false, between true,
      isNull false, isNull true]

/-- The words of an operator as SQL writes them. -/
def keyword : Operator → String
  | compare c => c.symbol
  | like negated => if negated then "NOT LIKE" else "LIKE"
  | member negated => if negated then "NOT IN" else "IN"
  | between negated => if negated then "NOT BETWEEN" else "BETWEEN"
  | isNull negated => if negated then "IS NOT" else "IS"

/-- The keywords, and the negated ones written together. -/
def spellings : Vocabulary Operator :=
  all.map (fun o => (o.keyword, o)) ++
    [("NOTLIKE", like true), ("NOTIN", member true), ("NOTBETWEEN", between true),
      ("ISNOT", isNull true)]

/-- The operator that a text names, whatever its case and blanks. -/
def ofText? (s : String) : Option Operator := spellings.ofPhrase? s

@[simp] theorem ofText?_keyword (o : Operator) : ofText? o.keyword = some o := by
  cases o with
  | compare c => cases c <;> decide
  | like negated => cases negated <;> decide
  | member negated => cases negated <;> decide
  | between negated => cases negated <;> decide
  | isNull negated => cases negated <;> decide

end Operator

/-- How two conditions are joined. -/
inductive Connective where
  | and
  | or
deriving DecidableEq, Repr

namespace Connective

/-- The word between the two conditions. -/
def keyword : Connective → String
  | and => "AND"
  | or => "OR"

/-- Each connective is known by its word only. -/
def spellings : Vocabulary Connective := [(and.keyword, and), (or.keyword, or)]

/-- The connective that a text names, whatever its case and the blanks around it. -/
def ofText? (s : String) : Option Connective := spellings.ofWord? s

@[simp] theorem ofText?_keyword (c : Connective) : ofText? c.keyword = some c := by
  cases c <;> decide

end Connective

end DialectSql
