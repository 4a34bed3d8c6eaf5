import DialectSql.Column
import DialectSql.Statement.Clause

/-!
# Statements on whole tables

`TRUNCATE` empties a table and starts its counters anew, `CREATE TABLE` makes one, `DROP TABLE`
removes one. Options that a dialect does not know are left out.
-/

set_option autoImplicit false

namespace DialectSql

open Text

/-- Emptying a table. -/
structure Truncate where
  table : Option String := none
deriving DecidableEq, Repr

/-- A new table with its columns. -/
structure CreateTable where
  name : Option String := none
  ifNotExists : Bool := false
  engine : Option String := none
  columns : List Column := []
deriving DecidableEq

/-- The removal of a table. -/
structure DropTable where
  table : Option String := none
  ifExists : Bool := false
deriving DecidableEq, Repr

/-- Emptying a table needs its name. SQLite has no such statement: all rows are deleted, and so is
the row that counts them, which a literal of the table's name finds. -/
def Truncate.build (d : Dialect) (n : TableNaming) (s : Truncate) : Except Error String := do
  let table ← requireName .truncate .table s.table
  match d with
  | .mysqli | .mysqlPdo | .oracle | .sqlServer => return "TRUNCATE TABLE " ++ n.reference table
  | .postgresql => return "TRUNCATE " ++ n.reference table ++ " RESTART IDENTITY"
  | .db2 =>
      return "TRUNCATE TABLE " ++ n.reference table ++
        " IGNORE DELETE TRIGGERS DROP STORAGE IMMEDIATE"
  | .sqlite =>
      return "DELETE FROM " ++ n.reference table ++ "; DELETE FROM SQLITE_SEQUENCE WHERE name=" ++
        n.literal table

namespace CreateTable

/-- The storage engine, which MySQL alone has; a blank one stands for none. -/
def engineClause (d : Dialect) (s : CreateTable) : String :=
  if d.isMySQL then optionalClause "ENGINE" (s.engine.bind nonblank?) else ""

/-- A new table needs a name and columns, all of which must be written without an error. -/
def build (st : Style) (n : TableNaming) (s : CreateTable) : Except Error String := do
  let name ← requireName .create .name s.name
  if s.columns = [] then throw (.missing .create .columns)
  let definitions ← s.columns.mapM (Column.render st)
  return "CREATE TABLE" ++
    (if s.ifNotExists && st.dialect.createsIfNotExists then " IF NOT EXISTS" else "") ++ " " ++
    n.reference name ++ " (" ++ listed ", " definitions ++ ")" ++ s.engineClause st.dialect

end CreateTable

/-- Removing a table needs its name. -/
def DropTable.build (d : Dialect) (n : TableNaming) (s : DropTable) : Except Error String := do
  let table ← requireName .drop .table s.table
  return "DROP TABLE" ++ (if s.ifExists && d.dropsIfExists then " IF EXISTS" else "") ++ " " ++
    n.reference table

end DialectSql
