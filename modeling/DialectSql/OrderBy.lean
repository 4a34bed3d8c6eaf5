import DialectSql.Error
import DialectSql.Text.Blank

/-!
# Items of an ORDER BY clause

Columns with directions: the first direction goes with the first column and so on, and columns
without a direction of their own have none. SQLite compares texts without regard to case.
-/

set_option autoImplicit false

namespace DialectSql

open Text

/-- The direction in which a column is ordered. -/
inductive Direction where
  | ascending
  | descending
deriving DecidableEq, Repr

/-- The word for a direction. -/
def Direction.keyword : Direction → String
  | ascending => "ASC"
  | descending => "DESC"

/-- The direction of a text, if it is not blank. -/
def Direction.parse (s : String) : Except Error (Option Direction) :=
  match upper (trim s) with
  | "" => .ok none
  | "ASC" => .ok (some .ascending)
  | "DESC" => .ok (some .descending)
  | word => .error (.invalidClause .orderBy (.invalidDirection word))

namespace Dialect

/-- An item: the column, a comparison without regard to case in SQLite, and the direction. -/
def orderItem (d : Dialect) (column : String) (direction : Option Direction) : String :=
  d.identifier column ++ (if d = .sqlite then " COLLATE NOCASE" else "") ++
    (match direction with
      | some dir => " " ++ dir.keyword
      | none => "")

/-- The items of columns with the directions that are left for them. A column is looked at before
its direction, and both before the next column. -/
def orderItemsFrom (d : Dialect) : List String → List String → Except Error (List String)
  | [], _ => .ok []
  | column :: columns, directions => do
      if trim column = "" then throw (.invalidClause .orderBy .emptyColumn)
      let direction ←
        match directions.head? with
        | some text => Direction.parse text
        | none => .ok none
      return d.orderItem column direction :: (← d.orderItemsFrom columns directions.tail)

/-- The items of columns with directions, of which there may be fewer but not more. -/
def orderItems (d : Dialect) (columns directions : List String) :
    Except Error (List String) := do
  if columns = [] then throw (.invalidClause .orderBy .emptyColumnList)
  if columns.length < directions.length then
    throw (.invalidClause .orderBy (.tooManyDirections directions.length columns.length))
  d.orderItemsFrom columns directions

end Dialect

end DialectSql
