import DialectSql.Query.Basic

/-!
# Working on a query

`QueryM` is a computation that changes a query, reports events and may be refused. What it has done
before it is refused stays done; every single call below checks its arguments first and changes the
query last, so that a refused call changes nothing.

A program is a sequence of calls: `do table "users"; keys ["id"]; build .get { limit := 10 }`.
-/

set_option autoImplicit false

namespace DialectSql

open Text

/-- What is reported while a query is worked on. -/
inductive Event where
  /-- A statement was built; the text is the one that was returned. -/
  | built (operation : Operation) (dialect : Dialect) (sql : String)
  /-- The fragments were cleared, in a deep reset also the prefix of the table names. -/
  | reset (deep : Bool)
deriving DecidableEq, Repr

/-- A query with the events that were reported so far, in order. -/
structure Session where
  query : Query
  events : List Event := []

/-- A computation on a query; a refused one keeps what it had changed. -/
abbrev QueryM := ExceptT Error (StateM Session)

namespace QueryM

/-- The style of the query. -/
def style : QueryM Style := return (← get).query.style

/-- The dialect of the query. -/
def dialect : QueryM Dialect := return (← style).dialect

/-- Changes the query. -/
def modifyQuery (f : Query → Query) : QueryM Unit :=
  modify fun s => { s with query := f s.query }

/-- Changes the fragments of the query. -/
def modifyFragments (f : Fragments → Fragments) : QueryM Unit :=
  modifyQuery fun q => { q with fragments := f q.fragments }

/-- Reports an event. -/
def report (e : Event) : QueryM Unit :=
  modify fun s => { s with events := s.events ++ [e] }

/-! ## Fragments -/

/-- Sets the table. -/
def table (name : String) : QueryM Unit := do
  match nonblank? name with
  | some n => modifyFragments ({ · with table := some n })
  | none => throw (.invalidClause .table .emptyTableName)

/-- Leaves out duplicate rows of a selection. -/
def distinct : QueryM Unit := modifyFragments ({ · with distinct := true })

/-- Sets the keys. -/
def keys (expressions : List String) : QueryM Unit := do
  let ks ← (← dialect).keys expressions
  modifyFragments ({ · with keys := ks })

/-- Adds a row of values. -/
def values (row : List Literal) : QueryM Unit := do
  if row = [] then throw (.invalidValue .emptyRow)
  let vs ← (← style).literals row
  modifyFragments fun f => { f with rows := f.rows ++ [vs] }

/-- Puts a condition to those already there. -/
def attachCondition (a : Attachment) (source : Except Error Condition) : QueryM Unit := do
  let c ← source
  modifyFragments fun f => { f with condition := some (a.attach f.condition c) }

/-- Puts a condition on one column to those already there. -/
def restrict (a : Attachment) (column operator : String) (operand : Operand) : QueryM Unit :=
  attachCondition a (Condition.ofText column operator operand)

/-- Puts a group of two conditions to those already there. -/
def restrictGroup (a : Attachment) (left : ConditionSource) (connective : String)
    (right : ConditionSource) : QueryM Unit :=
  attachCondition a (Condition.groupOf left connective right)

/-- Adds a join; its type is read before the table is looked at. -/
def join (type table : String) (label : Option String) : QueryM Unit := do
  let j ← Join.make (← JoinType.parse type) table label
  modifyFragments fun f => { f with joins := f.joins ++ [j] }

/-- Columns as identifiers, of which there must be some, none of them blank. -/
def columnList (clause : Clause) (columns : List String) : QueryM (List String) := do
  if columns = [] ∨ columns.any (trim · = "") then
    throw (.invalidClause clause .emptyColumnList)
  return columns.map (← dialect).identifier

/-- Sets the columns that joined tables share. -/
def usingColumns (columns : List String) : QueryM Unit := do
  let items ← columnList .usingColumns columns
  modifyFragments ({ · with usingColumns := items })

/-- Puts a comparison of columns to the condition of the joins. -/
def joinWhere (a : Attachment) (first operator second : String) : QueryM Unit := do
  let term ← JoinCondition.term first operator second
  modifyFragments fun f => { f with joinCondition := f.joinCondition.attach a term }

/-- Sets the order of the rows. -/
def orderBy (columns directions : List String) : QueryM Unit := do
  let items ← (← dialect).orderItems columns directions
  modifyFragments ({ · with orderBy := items })

/-- Sets the columns by which rows are grouped. -/
def groupBy (columns : List String) : QueryM Unit := do
  let items ← columnList .groupBy columns
  modifyFragments ({ · with groupBy := items })

/-- Sets the conditions on groups, which are written as they are given. -/
def having (clauses : List String) : QueryM Unit := do
  if clauses = [] ∨ clauses.any (trim · = "") then throw (.invalidClause .having .emptyClause)
  modifyFragments ({ · with having := clauses.map trim })

/-- Adds the definition of a column. -/
def column (definition : Column) : QueryM Unit := do
  definition.validate
  modifyFragments fun f => { f with columns := f.columns ++ [definition] }

/-! ## Settings -/

/-- Sets the escaper of text literals. What is accumulated as SQL already stays as it is. -/
def setEscaper (e : Escaper) : QueryM Unit :=
  modifyQuery fun q => { q with style := { q.style with escaper := e } }

/-- Sets the prefix of the table names. -/
def setTablePrefix (text : String) : QueryM Unit :=
  modifyQuery ({ · with tablePrefix := trim text })

/-- Sets whether the fragments are cleared after each statement. -/
def setAutoReset (enabled : Bool) : QueryM Unit :=
  modifyQuery ({ · with autoReset := enabled })

/-- Clears the fragments, in a deep reset also the prefix of the table names. -/
def reset (deep : Bool) : QueryM Unit := do
  modifyQuery fun q =>
    { q with fragments := {}, tablePrefix := if deep then "" else q.tablePrefix }
  report (.reset deep)

/-! ## Statements -/

/-- Builds a statement, reports it and clears the fragments if that is set. -/
def build (o : Operation) (p : Parameters) : QueryM String := do
  let q := (← get).query
  let sql ← q.sql o p
  report (.built o q.dialect sql)
  if q.autoReset then reset false
  return sql

end QueryM

end DialectSql
