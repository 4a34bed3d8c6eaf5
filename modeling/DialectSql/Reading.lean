import DialectSql.Dialect.ColumnType
import DialectSql.Error

/-!
# Names given as text

Dialects, operations, operators, connectives and column types can be given as text. Each `parse`
refuses an unknown text with the error of its vocabulary, which shows the text as it was given.
-/

set_option autoImplicit false

namespace DialectSql

/-- The dialect of a name. -/
def Dialect.parse (s : String) : Except Error Dialect :=
  match Dialect.ofText? s with
  | some d => .ok d
  | none => .error (.unsupportedDialect s)

/-- The operation of a name. -/
def Operation.parse (s : String) : Except Error Operation :=
  match Operation.ofText? s with
  | some o => .ok o
  | none => .error (.unsupportedOperation s)

/-- The operator of a condition on a column. -/
def Operator.parse (s : String) : Except Error Operator :=
  match Operator.ofText? s with
  | some o => .ok o
  | none => .error (.invalidCondition (.unknownOperator s))

/-- The comparison of two columns of a join. -/
def Comparison.parse (s : String) : Except Error Comparison :=
  match Comparison.ofText? s with
  | some c => .ok c
  | none => .error (.invalidCondition (.unknownJoinOperator s))

/-- The connective of two conditions. -/
def Connective.parse (s : String) : Except Error Connective :=
  match Connective.ofText? s with
  | some c => .ok c
  | none => .error (.invalidCondition (.unknownConnective s))

/-- The logical type of a column. -/
def ColumnType.parse (s : String) : Except Error ColumnType :=
  match ColumnType.ofText? s with
  | some t => .ok t
  | none => .error (.invalidColumn (.unknownType s))

@[simp] theorem Dialect.parse_name (d : Dialect) : Dialect.parse d.name = .ok d := by
  simp [Dialect.parse]

@[simp] theorem Operation.parse_name (o : Operation) : Operation.parse o.name = .ok o := by
  simp [Operation.parse]

@[simp] theorem Operator.parse_keyword (o : Operator) : Operator.parse o.keyword = .ok o := by
  simp [Operator.parse]

@[simp] theorem Comparison.parse_symbol (c : Comparison) :
    Comparison.parse c.symbol = .ok c := by
  simp [Comparison.parse]

@[simp] theorem Connective.parse_keyword (c : Connective) :
    Connective.parse c.keyword = .ok c := by
  simp [Connective.parse]

@[simp] theorem ColumnType.parse_name (t : ColumnType) : ColumnType.parse t.name = .ok t := by
  simp [ColumnType.parse]

end DialectSql
