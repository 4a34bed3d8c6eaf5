import DialectSql.Condition.JoinCondition
import DialectSql.Key
import DialectSql.OrderBy
import DialectSql.Statement.Basic
import DialectSql.Text.Marker

/-!
# Queries

A `Query` accumulates the fragments of statements: keys, rows and lists of columns as SQL already,
conditions and column definitions as they are. It also holds the style, the prefix of the table
names and whether the fragments are cleared after each statement.

`Query.statement` makes a statement of the fragments that its operation uses, and `Query.sql` builds
its text and puts the prefix into it.
-/

set_option autoImplicit false

namespace DialectSql

open Text

/-- What has been accumulated for a statement. -/
structure Fragments where
  table : Option String := none
  distinct : Bool := false
  keys : List String := []
  rows : List (List String) := []
  condition : Option Condition := none
  joins : List Join := []
  usingColumns : List String := []
  joinCondition : JoinCondition := .none
  groupBy : List String := []
  having : List String := []
  orderBy : List String := []
  columns : List Column := []
deriving DecidableEq

/-- Accumulated fragments, how they are written, the prefix of the table names, and whether the
fragments are cleared after each statement. -/
structure Query where
  style : Style
  tablePrefix : String := ""
  autoReset : Bool := false
  fragments : Fragments := {}

namespace Query

/-- An empty query with the standard escaper of the dialect. -/
def ofDialect (d : Dialect) : Query := { style := .standard d }

/-- An empty query with an escaper of its own. -/
def withEscaper (d : Dialect) (e : Escaper) : Query := { style := ⟨d, e⟩ }

/-- The dialect of a query. -/
def dialect (q : Query) : Dialect := q.style.dialect

/-- The SQL of the accumulated condition, if there is one. -/
def conditionSql (q : Query) : Except Error (Option String) :=
  match q.fragments.condition with
  | some c => do return some (← c.render q.style)
  | none => .ok none

/-- The statement of an operation with the fragments that it uses. A condition is written at this
point, so one that cannot be written is the first error. A new table has the name among the
parameters unless that is blank. -/
def statement (q : Query) (o : Operation) (p : Parameters) : Except Error Statement :=
  let f := q.fragments
  match o with
  | .get => do
      return .select
        { table := f.table, distinct := f.distinct, keys := f.keys, joins := f.joins,
          usingColumns := f.usingColumns, joinCondition := f.joinCondition.render?,
          condition := ← q.conditionSql, groupBy := f.groupBy, having := f.having,
          orderBy := f.orderBy, limit := p.limit, offset := p.offset }
  | .store => .ok (.insert { table := f.table, keys := f.keys, rows := f.rows })
  | .update => do
      return .update
        { table := f.table, keys := f.keys, rows := f.rows, condition := ← q.conditionSql }
  | .delete => do return .delete { table := f.table, condition := ← q.conditionSql }
  | .truncate => .ok (.truncate { table := f.table })
  | .create =>
      .ok (.create
        { name := (p.name.bind nonblank?).or f.table, ifNotExists := p.ifNotExists,
          engine := p.engine, columns := f.columns })
  | .drop => .ok (.drop { table := f.table, ifExists := p.ifExists })

/-- The text of a statement in which the names of tables start with the placeholder. -/
def template (q : Query) (o : Operation) (p : Parameters) : Except Error String := do
  (← q.statement o p).build q.style

/-- The text of a statement: the prefix of the table names replaces the placeholder wherever it
stands. -/
def sql (q : Query) (o : Operation) (p : Parameters) : Except Error String := do
  return replace tablePlaceholder q.tablePrefix (← q.template o p)

end Query

end DialectSql
