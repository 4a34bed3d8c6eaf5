import DialectSql.Dialect.Basic

/-!
# Column types

Eleven logical column types, and for each dialect the keyword of the native type and whether a
length may follow it.
-/

set_option autoImplicit false

namespace DialectSql

open Text

/-- The logical type of a column. -/
inductive ColumnType where
  | string
  | integer
  | float
  | decimal
  | bool
  | time
  | date
  | dateTime
  | timestamp
  | text
  | blob
deriving DecidableEq, Repr

namespace ColumnType

/-- All column types. -/
def all : List ColumnType :=
  [string, integer, float, decimal, bool, time, date, dateTime, timestamp, text, blob]

/-- The canonical name of a column type. -/
def name : ColumnType → String
  | string => "STRING"
  | integer => "INTEGER"
  | float => "FLOAT"
  | decimal => "DECIMAL"
  | bool => "BOOL"
  | time => "TIME"
  | date => "DATE"
  | dateTime => "DATETIME"
  | timestamp => "TIMESTAMP"
  | text => "TEXT"
  | blob => "BLOB"

/-- Each type is known by its name only. -/
def spellings : Vocabulary ColumnType := all.map fun t => (t.name, t)

/-- The type that a text names, whatever its case and the blanks around it. -/
def ofText? (s : String) : Option ColumnType := spellings.ofWord? s

@[simp] theorem ofText?_name (t : ColumnType) : ofText? t.name = some t := by
  cases t <;> decide

end ColumnType

namespace Dialect

/-- The keyword of the native type that stands for a logical one. -/
def typeKeyword : Dialect → ColumnType → String
  | mysqli, t | mysqlPdo, t =>
      match t with
      | .string => "VARCHAR"
      | .integer => "INTEGER"
      | .float => "FLOAT"
      | .decimal => "DECIMAL"
      | .bool => "BOOL"
      | .time => "TIME"
      | .date => "DATE"
      | .dateTime => "DATETIME"
      | .timestamp => "TIMESTAMP"
      | .text => "TEXT"
      | .blob => "BLOB"
  | postgresql, t =>
      match t with
      | .string => "VARCHAR"
      | .integer => "INTEGER"
      | .float => "FLOAT4"
      | .decimal => "DECIMAL"
      | .bool => "BOOL"
      | .time => "TIME"
      | .date => "DATE"
      | .dateTime | .timestamp => "TIMESTAMP"
      | .text => "TEXT"
      | .blob => "BYTEA"
  | oracle, t =>
      match t with
      | .string => "VARCHAR"
      | .integer | .decimal => "NUMBER"
      | .float => "FLOAT"
      | .bool => "NUMBER(1)"
      | .time | .date | .dateTime | .timestamp => "DATE"
      | .text => "CLOB"
      | .blob => "BLOB"
  | db2, t =>
      match t with
      | .string => "VARCHAR"
      | .integer => "INTEGER"
      | .float => "REAL"
      | .decimal => "DECIMAL"
      | .bool => "SMALLINT"
      | .time => "TIME"
      | .date => "DATE"
      | .dateTime | .timestamp => "TIMESTAMP"
      | .text => "CLOB"
      | .blob => "BLOB"
  | sqlServer, t =>
      match t with
      | .string | .text => "NVARCHAR"
      | .integer => "INTEGER"
      | .float => "FLOAT"
      | .decimal => "DECIMAL"
      | .bool => "BIT"
      | .time => "TIME"
      | .date => "DATE"
      | .dateTime => "DATETIME"
      | .timestamp => "TIMESTAMP"
      | .blob => "BLOB"
  | sqlite, t =>
      match t with
      | .integer => "INTEGER"
      | .float => "REAL"
      | .decimal | .bool => "NUMERIC"
      | .string | .time | .date | .dateTime | .timestamp | .text => "TEXT"
      | .blob => "BLOB"

/-- Whether a length may follow the keyword; a length given for another type is left out. -/
def acceptsLength : Dialect → ColumnType → Bool
  | mysqli, t | mysqlPdo, t =>
      match t with
      | .bool | .date => false
      | _ => true
  | postgresql, t =>
      match t with
      | .string | .decimal | .time | .dateTime | .timestamp => true
      | _ => false
  | oracle, t =>
      match t with
      | .string | .integer | .float | .decimal => true
      | _ => false
  | db2, t =>
      match t with
      | .string | .decimal | .dateTime | .timestamp | .text | .blob => true
      | _ => false
  | sqlServer, t =>
      match t with
      | .string | .float | .decimal | .time | .text => true
      | _ => false
  | sqlite, _ => false

/-- Whether a keyword already carries a length of its own. -/
def hasOwnLength (d : Dialect) (t : ColumnType) : Bool := (d.typeKeyword t).toList.contains '('

end Dialect

end DialectSql
