import DialectSql.Query.Session
import DialectSql.Reading

/-!
# Calls on a query

Every call that changes a query or builds a statement, as a value. `Session.perform` makes one call
and `Session.run` a sequence of them, in which calls after a refused one go on with the query as
the refused one left it.
-/

set_option autoImplicit false

namespace DialectSql

/-- A call with its arguments. -/
inductive Call where
  | table (name : String)
  | distinct
  | keys (expressions : List String)
  | values (row : List Literal)
  | restrict (a : Attachment) (column operator : String) (operand : Operand)
  | restrictGroup (a : Attachment) (left : ConditionSource) (connective : String)
      (right : ConditionSource)
  | join (type table : String) (label : Option String)
  | usingColumns (columns : List String)
  | joinWhere (a : Attachment) (first operator second : String)
  | orderBy (columns directions : List String)
  | groupBy (columns : List String)
  | having (clauses : List String)
  | column (added : Column)
  | setEscaper (e : Escaper)
  | setTablePrefix (text : String)
  | setAutoReset (enabled : Bool)
  | reset (deep : Bool)
  | build (operation : Operation) (parameters : Parameters)
  /-- The operation is given as text. -/
  | buildNamed (operation : String) (parameters : Parameters)

namespace Call

/-- Sets the order of the rows by columns without directions. -/
def orderByColumns (columns : List String) : Call := orderBy columns []

/-- Builds a selection of at most `limit` rows after the first `offset` ones. -/
def get (limit offset : Nat) : Call := build .get { limit, offset }

/-- Builds an insertion. -/
def store : Call := build .store {}

/-- Builds an update. -/
def update : Call := build .update {}

/-- Builds a deletion. -/
def delete : Call := build .delete {}

/-- Builds what empties the table. -/
def truncate : Call := build .truncate {}

/-- Builds what makes a table. -/
def create (name : Option String) (ifNotExists : Bool) (engine : Option String) : Call :=
  build .create { name, ifNotExists, engine }

/-- Builds what removes the table. -/
def drop (ifExists : Bool) : Call := build .drop { ifExists }

/-- The answer of a call that only changes the query. -/
def silently (m : QueryM Unit) : QueryM (Option String) := do
  m
  return none

/-- Makes a call. The answer is the text of a statement if one was built. -/
def perform : Call → QueryM (Option String)
  | table name => silently (.table name)
  | distinct => silently .distinct
  | keys expressions => silently (.keys expressions)
  | values row => silently (.values row)
  | restrict a name operator operand => silently (.restrict a name operator operand)
  | restrictGroup a left connective right => silently (.restrictGroup a left connective right)
  | join type name label => silently (.join type name label)
  | usingColumns columns => silently (.usingColumns columns)
  | joinWhere a first operator second => silently (.joinWhere a first operator second)
  | orderBy columns directions => silently (.orderBy columns directions)
  | groupBy columns => silently (.groupBy columns)
  | having clauses => silently (.having clauses)
  | column added => silently (.column added)
  | setEscaper e => silently (.setEscaper e)
  | setTablePrefix text => silently (.setTablePrefix text)
  | setAutoReset enabled => silently (.setAutoReset enabled)
  | reset deep => silently (.reset deep)
  | build o p => some <$> QueryM.build o p
  | buildNamed text p => do
      let o ← Operation.parse text
      some <$> QueryM.build o p

end Call

namespace Session

/-- The answer of one call, and the session after it. -/
def perform (s : Session) (c : Call) : Except Error (Option String) × Session :=
  c.perform.run.run s

/-- The session after a sequence of calls, whether or not each of them is refused. -/
def run (s : Session) (calls : List Call) : Session :=
  calls.foldl (fun s c => (s.perform c).2) s

end Session

end DialectSql
