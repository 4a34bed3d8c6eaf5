import DialectSql.Style
import DialectSql.Reading

/-!
# Column definitions

A `Column` is what a new table says of one of its columns. It has a name, a logical type and
modifiers, and is written by any dialect; a dialect leaves out the modifiers that it does not know.
The parts stand in one fixed order, whatever the order in which the modifiers were given.
-/

set_option autoImplicit false

namespace DialectSql

open Text

/-- The definition of a column. -/
structure Column where
  name : String
  type : ColumnType
  length : Option Nat := none
  unsigned : Bool := false
  zerofill : Bool := false
  charset : Option String := none
  collation : Option String := none
  notNull : Bool := false
  default : Option Literal := none
  autoIncrement : Bool := false
  unique : Bool := false
  primaryKey : Bool := false
  name_trimmed : trim name = name
  name_ne_empty : name ≠ ""
deriving DecidableEq

/-- A change to the definition of a column. -/
inductive ColumnModifier where
  | length (value : Nat)
  | unsigned
  | zerofill
  | charset (name : String)
  | collate (name : String)
  | notNull
  | default (value : Literal)
  | autoIncrement
  | unique
  | primaryKey
deriving DecidableEq

namespace Column

/-- The definition of a column with nothing but a name and a type. -/
def make (name : String) (type : ColumnType) : Except Error Column :=
  if h : trim name = "" then .error (.invalidColumn .emptyName)
  else .ok { name := trim name, type, name_trimmed := trim_trim name, name_ne_empty := h }

/-- The definition of a column whose type is given as text; the type is read before the name is
looked at. -/
def parse (name type : String) : Except Error Column := do
  make name (← ColumnType.parse type)

/-- The definition after a change. A blank character set or collation stands for none. -/
def modify (col : Column) : ColumnModifier → Column
  | .length n => { col with length := some n }
  | .unsigned => { col with unsigned := true }
  | .zerofill => { col with zerofill := true }
  | .charset s => { col with charset := nonblank? s }
  | .collate s => { col with collation := nonblank? s }
  | .notNull => { col with notNull := true }
  | .default v => { col with default := some v }
  | .autoIncrement => { col with autoIncrement := true }
  | .unique => { col with unique := true }
  | .primaryKey => { col with primaryKey := true }

/-- A length of zero is refused, whether or not it would be written. -/
def validate (col : Column) : Except Error Unit :=
  if col.length = some 0 then .error (.invalidColumn (.zeroLength col.name)) else .ok ()

/-! ## Parts of a definition

Each part is a list of one text, or empty where the part is left out. -/

/-- The native type, with the length where one may follow. -/
def typePart (d : Dialect) (col : Column) : String :=
  match col.length with
  | some n =>
      if d.acceptsLength col.type && !d.hasOwnLength col.type then
        d.typeKeyword col.type ++ "(" ++ n.repr ++ ")"
      else d.typeKeyword col.type
  | none => d.typeKeyword col.type

/-- A column of natural numbers. In SQLite the primary key keeps its plain integer type. -/
def unsignedPart (d : Dialect) (col : Column) : List String :=
  if col.unsigned && (d.isMySQL || (d == .sqlite && !col.primaryKey)) then ["UNSIGNED"] else []

/-- Display with leading zeros. -/
def zerofillPart (d : Dialect) (col : Column) : List String :=
  if col.zerofill && d.isMySQL then ["ZEROFILL"] else []

/-- The character set. -/
def charsetPart (d : Dialect) (col : Column) : List String :=
  match col.charset with
  | some s => if d.isMySQL then ["CHARACTER SET " ++ s] else []
  | none => []

/-- The collation, which PostgreSQL takes for an identifier in quotes. -/
def collationPart (d : Dialect) (col : Column) : List String :=
  match col.collation with
  | some s =>
      match d with
      | .mysqli | .mysqlPdo | .sqlServer | .sqlite => ["COLLATE " ++ s]
      | .postgresql => ["COLLATE \"" ++ s ++ "\""]
      | .oracle | .db2 => []
  | none => []

/-- The null value is not allowed. -/
def notNullPart (col : Column) : List String := if col.notNull then ["NOT NULL"] else []

/-- The value of a column that is not given. -/
def defaultPart (st : Style) (col : Column) : Except Error (List String) :=
  match col.default with
  | some v => do return ["DEFAULT " ++ (← st.literal v)]
  | none => .ok []

/-- Values that are counted up; SQLite has words for it after a primary key only. -/
def autoIncrementPart (d : Dialect) (col : Column) : List String :=
  if col.autoIncrement then
    match d with
    | .mysqli | .mysqlPdo => ["AUTO_INCREMENT"]
    | .postgresql | .oracle | .db2 => ["GENERATED BY DEFAULT AS IDENTITY"]
    | .sqlServer => ["IDENTITY(1,1)"]
    | .sqlite => []
  else []

/-- No two rows have the same value. -/
def uniquePart (col : Column) : List String := if col.unique then ["UNIQUE"] else []

/-- The column identifies the row. -/
def primaryKeyPart (d : Dialect) (col : Column) : List String :=
  if col.primaryKey then
    "PRIMARY KEY" :: (if d == .sqlite && col.autoIncrement then ["AUTOINCREMENT"] else [])
  else []

/-- The SQL of a definition: its parts in order with spaces between them. -/
def render (st : Style) (col : Column) : Except Error String := do
  col.validate
  let d := st.dialect
  let defaultValue ← col.defaultPart st
  return " ".intercalate
    ([d.quoteIdentifier col.name, col.typePart d] ++ col.unsignedPart d ++ col.zerofillPart d ++
      col.charsetPart d ++ col.collationPart d ++ col.notNullPart ++ defaultValue ++
      col.autoIncrementPart d ++ col.uniquePart ++ col.primaryKeyPart d)

end Column

end DialectSql
