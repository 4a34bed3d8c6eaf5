import DialectSql.Text.Blank
import DialectSql.Text.Vocabulary

/-!
# Dialects of SQL

A `Dialect` settles everything that differs between the databases: how an identifier is delimited,
how a truth value is written, how a table is referred to, which optional clauses exist and how
several rows are inserted at once. The two MySQL dialects differ in their names only.

A reference to a table starts with a qualifier, which is the prefix of the table names. Statements
are written with `tablePlaceholder` in its place and the prefix is put in last.
-/

set_option autoImplicit false

namespace DialectSql

open Text

/-- The databases whose SQL is written. -/
inductive Dialect where
  | mysqli
  | mysqlPdo
  | postgresql
  | oracle
  | db2
  | sqlServer
  | sqlite
deriving DecidableEq, Repr

/-- The text that stands for the prefix of the table names until a statement is complete. -/
def tablePlaceholder : String := "*_DBPREFIX_*"

/-- How one statement inserts several rows. -/
inductive MultiRowForm where
  /-- `VALUES (…), (…)` -/
  | valuesList
  /-- `SELECT … FROM DUAL UNION ALL SELECT … FROM DUAL` -/
  | dualUnion
  /-- `SELECT … AS key, … UNION SELECT …`, which names the columns itself. -/
  | aliasedUnion
deriving DecidableEq, Repr

namespace Dialect

/-- All dialects. -/
def all : List Dialect := [mysqli, mysqlPdo, postgresql, oracle, db2, sqlServer, sqlite]

/-- The canonical name of a dialect. -/
def name : Dialect → String
  | mysqli => "MYSQLI"
  | mysqlPdo => "MYSQL_PDO"
  | postgresql => "POSTGRESQL"
  | oracle => "ORACLE_PDO"
  | db2 => "DB2"
  | sqlServer => "DBLIB_PDO"
  | sqlite => "SQLITE_PDO"

/-- The names and other words by which the dialects are known. -/
def spellings : Vocabulary Dialect :=
  all.map (fun d => (d.name, d)) ++
    [("MYSQL", mysqli), ("POSTGRES", postgresql), ("PGSQL", postgresql), ("ORACLE", oracle),
      ("DBLIB", sqlServer), ("SQLSERVER", sqlServer), ("MSSQL", sqlServer), ("SQLITE", sqlite)]

/-- The dialect that a text names, whatever its case and the blanks around it. -/
def ofText? (s : String) : Option Dialect := spellings.ofWord? s

/-- The dialects that delimit identifiers by backticks and escape by backslashes. -/
def isMySQL : Dialect → Bool
  | mysqli | mysqlPdo => true
  | _ => false

/-! ## Identifiers -/

/-- The components of a qualified name, which points separate. -/
def components (name : String) : List String :=
  (name.toList.splitOn '.').map String.ofList

/-- A component between backticks; the wildcard stays bare. -/
def delimit (component : String) : String :=
  if component = "*" then component else "`" ++ component ++ "`"

/-- A name as the dialect writes it: each component delimited in MySQL, as it is elsewhere. -/
def quoteIdentifier (d : Dialect) (name : String) : String :=
  if d.isMySQL then ".".intercalate ((components name).map delimit) else name

/-- A column given by the caller: trimmed, then quoted unless it is the wildcard. -/
def identifier (d : Dialect) (name : String) : String :=
  if trim name = "*" then "*" else d.quoteIdentifier (trim name)

/-- A reference to the table whose full name is the qualifier followed by the trimmed name. -/
def tableReference (d : Dialect) (qualifier table : String) : String :=
  if d.isMySQL then "`" ++ qualifier ++ trim table ++ "`" else qualifier ++ trim table

/-! ## Words and abilities -/

/-- A truth value: a keyword, or a digit where the database has no such type. -/
def boolWord : Dialect → Bool → String
  | oracle, b | sqlServer, b | sqlite, b => if b then "1" else "0"
  | _, b => if b then "TRUE" else "FALSE"

/-- Whether a table can be created only if there is none of its name. -/
def createsIfNotExists : Dialect → Bool
  | mysqli | mysqlPdo | postgresql | sqlite => true
  | _ => false

/-- Whether a table can be dropped only if there is one of its name. -/
def dropsIfExists : Dialect → Bool
  | mysqli | mysqlPdo | postgresql | sqlServer => true
  | _ => false

/-- How several rows are inserted. -/
def multiRowForm : Dialect → MultiRowForm
  | oracle => .dualUnion
  | sqlite => .aliasedUnion
  | _ => .valuesList

/-- Only SQLite inserts several rows as a union of selections that names the columns. -/
theorem multiRowForm_eq_aliasedUnion_iff (d : Dialect) :
    d.multiRowForm = .aliasedUnion ↔ d = .sqlite := by
  cases d <;> decide

/-- Every canonical name is read back as its dialect. -/
@[simp] theorem ofText?_name (d : Dialect) : ofText? d.name = some d := by
  cases d <;> decide

end Dialect

end DialectSql
