import DialectSql.Text.Vocabulary

/-!
# Operations

The seven things that a statement can do, with the parameters that are given when one is built.
-/

set_option autoImplicit false

namespace DialectSql

open Text

/-- What a statement does. -/
inductive Operation where
  | get
  | store
  | update
  | delete
  | truncate
  | create
  | drop
deriving DecidableEq, Repr

namespace Operation

/-- All operations. -/
def all : List Operation := [get, store, update, delete, truncate, create, drop]

/-- The canonical name of an operation. -/
def name : Operation → String
  | get => "GET"
  | store => "STORE"
  | update => "UPDATE"
  | delete => "DELETE"
  | truncate => "TRUNCATE"
  | create => "CREATE"
  | drop => "DROP"

/-- Each operation is known by its name only. -/
def spellings : Vocabulary Operation := all.map fun o => (o.name, o)

/-- The operation that a text names, whatever its case and the blanks around it. -/
def ofText? (s : String) : Option Operation := spellings.ofWord? s

@[simp] theorem ofText?_name (o : Operation) : ofText? o.name = some o := by
  cases o <;> decide

end Operation

/-- The parameters of a statement that are given when it is built: the limit and offset of a
selection, where a limit of zero is none; the name of a new table, if it is not the one set before,
whether an existing table is kept, and its storage engine; whether the dropped table may be
missing. -/
structure Parameters where
  limit : Nat := 0
  offset : Nat := 0
  name : Option String := none
  ifNotExists : Bool := false
  engine : Option String := none
  ifExists : Bool := false
deriving DecidableEq, Repr

end DialectSql
