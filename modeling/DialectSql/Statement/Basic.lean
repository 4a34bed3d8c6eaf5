import DialectSql.Statement.Insert
import DialectSql.Statement.Select
import DialectSql.Statement.Table
import DialectSql.Statement.Update

/-!
# Statements

A `Statement` is one of the seven kinds with its fragments. Its text is built for a style; the
tables are named with the placeholder of the prefix, or, in `Statement.buildNaming`, in any way
given.
-/

set_option autoImplicit false

namespace DialectSql

/-- A statement with its fragments. -/
inductive Statement where
  | select (fragments : Select)
  | insert (fragments : Insert)
  | update (fragments : Update)
  | delete (fragments : Delete)
  | truncate (fragments : Truncate)
  | create (fragments : CreateTable)
  | drop (fragments : DropTable)
deriving DecidableEq

namespace Statement

/-- What a statement does. -/
def operation : Statement → Operation
  | select _ => .get
  | insert _ => .store
  | update _ => .update
  | delete _ => .delete
  | truncate _ => .truncate
  | create _ => .create
  | drop _ => .drop

/-- The text of a statement in which tables are named in the given way. -/
def buildNaming (st : Style) (n : TableNaming) : Statement → Except Error String
  | select s => s.build st.dialect n
  | insert s => s.build st.dialect n
  | update s => s.build n
  | delete s => s.build n
  | truncate s => s.build st.dialect n
  | create s => s.build st n
  | drop s => s.build st.dialect n

/-- The text of a statement in which the names of tables start with the placeholder. -/
def build (st : Style) (s : Statement) : Except Error String :=
  s.buildNaming st (.placeholder st)

end Statement

end DialectSql
