import DialectSql.Query.Basic

/-!
# The default dialect

A query that is made without a dialect has the default one. The default can be changed for good, or
for a scope, at whose end the one before it comes back.
-/

set_option autoImplicit false

namespace DialectSql

/-- The default dialect, and the ones that come back when the open scopes end, the innermost
first. -/
structure DefaultDialect where
  current : Dialect := .mysqli
  remembered : List Dialect := []
deriving DecidableEq, Repr

namespace DefaultDialect

/-- Changes the default for good; the answer is the one before. -/
def set (s : DefaultDialect) (d : Dialect) : Dialect × DefaultDialect :=
  (s.current, { s with current := d })

/-- Opens a scope with a default of its own. -/
def openScope (s : DefaultDialect) (d : Dialect) : DefaultDialect :=
  ⟨d, s.current :: s.remembered⟩

/-- Ends the innermost scope, if one is open. -/
def closeScope (s : DefaultDialect) : DefaultDialect :=
  match s.remembered with
  | [] => s
  | d :: rest => ⟨d, rest⟩

/-- An empty query with the default dialect. -/
def query (s : DefaultDialect) : Query := .ofDialect s.current

/-- The end of a scope brings back what was there before it, whatever the default was set to in
the scope. -/
theorem closeScope_set_openScope (s : DefaultDialect) (d e : Dialect) :
    ((s.openScope d).set e).2.closeScope = s := rfl

end DefaultDialect

end DialectSql
