import DialectSql.Error
import DialectSql.Text.Vocabulary

/-!
# Joins

A further table of a selection, with the words that say how it is joined and the alias by which it
is known, if any.
-/

set_option autoImplicit false

namespace DialectSql

open Text

/-- How a further table is joined; a plain join has no word of its own. -/
inductive JoinType where
  | plain
  | inner
  | natural
  | cross
  | left
  | right
  | leftOuter
  | rightOuter
  | fullOuter
deriving DecidableEq, Repr

namespace JoinType

/-- All join types. -/
def all : List JoinType :=
  [plain, inner, natural, cross, left, right, leftOuter, rightOuter, fullOuter]

/-- The words in front of `JOIN`. -/
def keyword : JoinType → String
  | plain => ""
  | inner => "INNER"
  | natural => "NATURAL"
  | cross => "CROSS"
  | left => "LEFT"
  | right => "RIGHT"
  | leftOuter => "LEFT OUTER"
  | rightOuter => "RIGHT OUTER"
  | fullOuter => "FULL OUTER"

/-- Each join type is known by its words only. -/
def spellings : Vocabulary JoinType := all.map fun t => (t.keyword, t)

/-- The join type that a text names, whatever its case and blanks. -/
def ofText? (s : String) : Option JoinType := spellings.ofPhrase? s

/-- The join type of a text; an unknown one is shown as it was given. -/
def parse (s : String) : Except Error JoinType :=
  match ofText? s with
  | some t => .ok t
  | none => .error (.invalidClause .join (.unsupportedJoinType s))

@[simp] theorem parse_keyword (t : JoinType) : parse t.keyword = .ok t := by
  cases t <;> rfl

end JoinType

/-- A further table of a selection. -/
structure Join where
  type : JoinType
  table : String
  label : Option String
deriving DecidableEq, Repr

namespace Join

/-- The join of a table that is not blank; a blank alias stands for none. -/
def make (type : JoinType) (table : String) (label : Option String) : Except Error Join :=
  match nonblank? table with
  | some t => .ok ⟨type, t, label.bind nonblank?⟩
  | none => .error (.invalidClause .join .emptyTableName)

end Join

end DialectSql
