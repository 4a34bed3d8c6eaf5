import DialectSql.DateTime.Basic
import DialectSql.Number.Binary64
import DialectSql.Text.Blank

/-!
# Literals

The values that a statement can hold. Integers are 64-bit words, signed or unsigned.
-/

set_option autoImplicit false

namespace DialectSql

open Text

/-- A value written into a statement. -/
inductive Literal where
  | null
  | bool (value : Bool)
  | int (value : Int64)
  | uint (value : UInt64)
  | float (value : Binary64)
  | text (value : String)
  | dateTime (value : DateTime)
deriving DecidableEq

/-- The null value, and any text that spells its keyword. -/
def Literal.isNullLike : Literal → Bool
  | null => true
  | text s => upper (trim s) == "NULL"
  | _ => false

end DialectSql
