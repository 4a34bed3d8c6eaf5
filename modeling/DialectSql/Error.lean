import DialectSql.Condition.Operator
import DialectSql.Dialect.Basic
import DialectSql.Number.Shortest
import DialectSql.Operation

/-!
# Errors

Why a call or a statement is refused. Each constructor of `Error` is a kind of cause with the values
that it concerns; `Error.message` words it. All refusals depend on the arguments and on what has
been accumulated only, never on an earlier refusal.
-/

set_option autoImplicit false

namespace DialectSql

/-- What is wrong with a key expression. -/
inductive KeyFault where
  | emptyKey
  | severalAliasMarkers
  | emptyAlias
  | emptyBase
  | emptyFunction
deriving DecidableEq, Repr

/-- What is wrong with a value. -/
inductive ValueFault where
  | nonFinite (number : Binary64)
  | emptyRow
deriving DecidableEq, Repr

/-- The shape of what a column is compared with. -/
inductive OperandShape where
  | scalar
  | list
  | range
deriving DecidableEq, Repr

/-- What is wrong with a condition. -/
inductive ConditionFault where
  | unknownOperator (text : String)
  | unknownConnective (text : String)
  | unknownJoinOperator (text : String)
  | emptyColumn
  | onlyNull (operator : Operator)
  | needsPattern (operator : Operator)
  | needsMembers (operator : Operator)
  | needsTwoBounds (operator : Operator)
  | wrongShape (operator : Operator) (shape : OperandShape)
  | needsTwoColumns
deriving DecidableEq, Repr

/-- The clauses that are checked when they are given. -/
inductive Clause where
  | table
  | join
  | usingColumns
  | orderBy
  | groupBy
  | having
deriving DecidableEq, Repr

/-- What is wrong with a clause. -/
inductive ClauseFault where
  | emptyTableName
  | unsupportedJoinType (text : String)
  | emptyColumnList
  | emptyColumn
  | tooManyDirections (directions columns : Nat)
  | invalidDirection (word : String)
  | emptyClause
deriving DecidableEq, Repr

/-- What is wrong with the definition of a column. -/
inductive ColumnFault where
  | unknownType (text : String)
  | emptyName
  | zeroLength (name : String)
deriving DecidableEq, Repr

/-- What a statement cannot do without. -/
inductive Requirement where
  | table
  | keys
  | values
  | name
  | columns
deriving DecidableEq, Repr

/-- How rows and keys fail to fit together. -/
inductive Mismatch where
  | rowWidth (row found expected : Nat)
  | keyCount (keys values : Nat)
  | rowCount (rows : Nat)
deriving DecidableEq, Repr

/-- Why something is refused. -/
inductive Error where
  | invalidKey (expression : String) (fault : KeyFault)
  | invalidValue (fault : ValueFault)
  | invalidCondition (fault : ConditionFault)
  | invalidClause (clause : Clause) (fault : ClauseFault)
  | invalidColumn (fault : ColumnFault)
  | missing (operation : Operation) (requirement : Requirement)
  | mismatched (operation : Operation) (mismatch : Mismatch)
  | unsupportedDialect (text : String)
  | unsupportedOperation (text : String)
deriving DecidableEq, Repr

/-! ## Wording -/

/-- What is said of a key. -/
def KeyFault.message : KeyFault → String
  | emptyKey => "empty key"
  | severalAliasMarkers => "more than one alias marker"
  | emptyAlias => "empty alias"
  | emptyBase => "empty key before alias"
  | emptyFunction => "empty function name"

/-- What is said of a value. -/
def ValueFault.message : ValueFault → String
  | nonFinite x => s!"non-finite number {x.text}"
  | emptyRow => "empty value row"

/-- The name of a shape. -/
def OperandShape.name : OperandShape → String
  | scalar => "scalar"
  | list => "list"
  | range => "range"

/-- What is said of a condition. -/
def ConditionFault.message : ConditionFault → String
  | unknownOperator s => s!"unknown operator `{s}`"
  | unknownConnective s => s!"unknown combinator `{s}`"
  | unknownJoinOperator s => s!"invalid on clause operator `{s}`"
  | emptyColumn => "empty column"
  | onlyNull o => s!"`{o.keyword}` only accepts NULL"
  | needsPattern o => s!"`{o.keyword}` needs a pattern"
  | needsMembers o => s!"`{o.keyword}` needs a non-empty list"
  | needsTwoBounds o => s!"`{o.keyword}` needs exactly two values"
  | wrongShape o shape => s!"operator `{o.keyword}` does not accept a {shape.name} value"
  | needsTwoColumns => "on clause needs two columns"

/-- The name of a clause. -/
def Clause.name : Clause → String
  | table => "table"
  | join => "join"
  | usingColumns => "using"
  | orderBy => "order by"
  | groupBy => "group by"
  | having => "having"

/-- What is said of a clause. -/
def ClauseFault.message : ClauseFault → String
  | emptyTableName => "empty table name"
  | unsupportedJoinType s => s!"unsupported join type `{s}`"
  | emptyColumnList => "empty column list"
  | emptyColumn => "empty column"
  | tooManyDirections directions columns => s!"{directions} directions for {columns} columns"
  | invalidDirection word => s!"invalid direction `{word}`"
  | emptyClause => "empty clause"

/-- What is said of the definition of a column. -/
def ColumnFault.message : ColumnFault → String
  | unknownType s => s!"unknown column type `{s}`"
  | emptyName => "empty column name"
  | zeroLength name => s!"column `{name}` has zero length"

/-- The word for a requirement. -/
def Requirement.word : Requirement → String
  | table => "table"
  | keys => "keys"
  | values => "values"
  | name => "name"
  | columns => "columns"

/-- What is said of rows and keys that do not fit. -/
def Mismatch.message : Mismatch → String
  | rowWidth row found expected => s!"row {row} has {found} values, expected {expected}"
  | keyCount keys values => s!"{keys} keys for {values} values"
  | rowCount rows => s!"expected exactly one row of values, got {rows}"

/-- The full text of an error. -/
def Error.message : Error → String
  | invalidKey e fault => s!"builder invalid key `{e}`: {fault.message}"
  | invalidValue fault => s!"builder invalid value: {fault.message}"
  | invalidCondition fault => s!"builder invalid condition: {fault.message}"
  | invalidClause clause fault => s!"builder invalid {clause.name} clause: {fault.message}"
  | invalidColumn fault => s!"builder invalid column definition: {fault.message}"
  | missing o r => s!"builder missing parameter `{r.word}` for {o.name}"
  | mismatched o m => s!"builder mismatched values for {o.name}: {m.message}"
  | unsupportedDialect s => s!"builder unsupported dialect `{s}`"
  | unsupportedOperation s => s!"builder unsupported operation `{s}`"

end DialectSql
