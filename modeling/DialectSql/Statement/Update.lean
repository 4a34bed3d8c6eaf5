import DialectSql.Statement.Clause

/-!
# Updates and deletions

`UPDATE` assigns one row of values to as many keys; `DELETE` needs a table only. Both are restricted
to the rows that meet a condition, if there is one.
-/

set_option autoImplicit false

namespace DialectSql

/-- The fragments of an update, written already. -/
structure Update where
  table : Option String := none
  keys : List String := []
  rows : List (List String) := []
  condition : Option String := none
deriving DecidableEq, Repr

/-- The fragments of a deletion, written already. -/
structure Delete where
  table : Option String := none
  condition : Option String := none
deriving DecidableEq, Repr

namespace Update

/-- The row of values, which must be the only one and as long as the list of keys. The wildcard is
no key that a value can be assigned to. -/
def row (s : Update) : Except Error (List String) :=
  if s.keys = [] ∨ "*" ∈ s.keys then .error (.missing .update .keys)
  else
    match s.rows with
    | [] => .error (.missing .update .values)
    | [row] =>
        if row.length = s.keys.length then .ok row
        else .error (.mismatched .update (.keyCount s.keys.length row.length))
    | rows => .error (.mismatched .update (.rowCount rows.length))

/-- The text of an update of the table of the given name with the given values. -/
def text (n : TableNaming) (s : Update) (table : String) (row : List String) : String :=
  "UPDATE " ++ n.reference table ++
    clause "SET" (",".intercalate (s.keys.zipWith (fun k v => k ++ "=" ++ v) row)) ++
    optionalClause "WHERE" s.condition

/-- An update needs a table, keys and one row of values. -/
def build (n : TableNaming) (s : Update) : Except Error String := do
  let table ← requireName .update .table s.table
  let row ← s.row
  return s.text n table row

end Update

namespace Delete

/-- A deletion needs a table. -/
def build (n : TableNaming) (s : Delete) : Except Error String := do
  let table ← requireName .delete .table s.table
  return "DELETE FROM " ++ n.reference table ++ optionalClause "WHERE" s.condition

end Delete

end DialectSql
