import DialectSql.Join
import DialectSql.Statement.Clause

/-!
# Selections

`SELECT` with all its clauses in the order of SQL. The limit is written in the way of the dialect;
a limit of zero is none, and an offset counts only together with a limit.
-/

set_option autoImplicit false

namespace DialectSql

/-- The fragments of a selection, written already. -/
structure Select where
  table : Option String := none
  distinct : Bool := false
  keys : List String := []
  joins : List Join := []
  usingColumns : List String := []
  joinCondition : Option String := none
  condition : Option String := none
  groupBy : List String := []
  having : List String := []
  orderBy : List String := []
  limit : Nat := 0
  offset : Nat := 0
deriving DecidableEq, Repr

/-- A join: the words of its type, the table and the alias. -/
def Join.text (n : TableNaming) (j : Join) : String :=
  (if j.type = .plain then "" else " " ++ j.type.keyword) ++ " JOIN " ++ n.reference j.table ++
    (match j.label with
      | some l => " AS " ++ l
      | none => "")

/-- The clause that restricts a selection to `limit` rows after the first `offset` ones. SQL Server
has it after an `ORDER BY` only, so one that changes nothing is put in front if there is no
other. -/
def limitClause (d : Dialect) (limit offset : Nat) (ordered : Bool) : String :=
  if limit = 0 then ""
  else
    match d with
    | .mysqli | .mysqlPdo =>
        if offset = 0 then " LIMIT " ++ limit.repr
        else " LIMIT " ++ offset.repr ++ "," ++ limit.repr
    | .postgresql | .sqlite =>
        if offset = 0 then " LIMIT " ++ limit.repr
        else " LIMIT " ++ limit.repr ++ " OFFSET " ++ offset.repr
    | .oracle =>
        " OFFSET " ++ offset.repr ++ " ROWS FETCH NEXT " ++ limit.repr ++ " ROWS ONLY"
    | .sqlServer =>
        (if ordered then "" else " ORDER BY 1") ++
          " OFFSET " ++ offset.repr ++ " ROWS FETCH NEXT " ++ limit.repr ++ " ROWS ONLY"
    | .db2 =>
        if offset = 0 then " FETCH FIRST " ++ limit.repr ++ " ROWS ONLY"
        else " OFFSET " ++ offset.repr ++ " ROWS FETCH FIRST " ++ limit.repr ++ " ROWS ONLY"

namespace Select

/-- The joins and, if there is one, the condition on which they are made: the list of columns that
the tables share, or else a comparison of columns. -/
def joinText (n : TableNaming) (s : Select) : String :=
  if s.joins = [] then ""
  else
    String.join (s.joins.map (Join.text n)) ++
      (if s.usingColumns = [] then optionalClause "ON" s.joinCondition
        else " USING (" ++ listed "," s.usingColumns ++ ")")

/-- The text of a selection from the table of the given name. -/
def text (d : Dialect) (n : TableNaming) (s : Select) (table : String) : String :=
  "SELECT" ++ (if s.distinct then " DISTINCT" else "") ++ " " ++ listed "," s.keys ++
    " FROM " ++ n.reference table ++ s.joinText n ++ optionalClause "WHERE" s.condition ++
    clause "GROUP BY" (",".intercalate s.groupBy) ++
    clause "HAVING" (" AND ".intercalate s.having) ++
    clause "ORDER BY" (", ".intercalate s.orderBy) ++
    limitClause d s.limit s.offset (!s.orderBy.isEmpty)

/-- A selection needs a table and keys. -/
def build (d : Dialect) (n : TableNaming) (s : Select) : Except Error String := do
  let table ← requireName .get .table s.table
  if s.keys = [] then throw (.missing .get .keys)
  return s.text d n table

end Select

end DialectSql
