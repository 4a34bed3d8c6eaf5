import DialectSql.DateTime.Layout
import DialectSql.Error
import DialectSql.Escaper
import DialectSql.Literal

/-!
# Writing literals

A `Style` is a dialect with an escaper: all that is needed to write a literal. Every literal can be
written except a floating-point number that is not finite.
-/

set_option autoImplicit false

namespace DialectSql

/-- A dialect with the escaper of its text literals. -/
structure Style where
  dialect : Dialect
  escaper : Escaper

namespace Style

/-- The style with the standard escaper of a dialect. -/
def standard (d : Dialect) : Style := ⟨d, Escaper.standard d⟩

/-- A text literal: the escaped text between quotes. -/
def quote (st : Style) (s : String) : String := "'" ++ st.escaper s ++ "'"

/-- A date-time literal. Oracle is told the layout of the text. -/
def dateTime (st : Style) (t : DateTime) : String :=
  let quoted := st.quote (t.body st.dialect)
  if st.dialect = .oracle then "TO_TIMESTAMP(" ++ quoted ++ ", 'YYYY-MM-DD HH24:MI:SS')"
  else quoted

/-- A literal as the dialect writes it. -/
def literal (st : Style) : Literal → Except Error String
  | .null => .ok "NULL"
  | .bool b => .ok (st.dialect.boolWord b)
  | .int n => .ok n.toInt.repr
  | .uint n => .ok n.toNat.repr
  | .float x => if x.isFinite then .ok x.text else .error (.invalidValue (.nonFinite x))
  | .text s => .ok (st.quote s)
  | .dateTime t => .ok (st.dateTime t)

/-- Literals in order; the first one that cannot be written is the error. -/
def literals (st : Style) (vs : List Literal) : Except Error (List String) :=
  vs.mapM st.literal

end Style

end DialectSql
