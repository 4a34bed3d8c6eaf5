import DialectSql.Style
import DialectSql.Text.Marker

/-!
# Key expressions

What a selection reads or an insertion writes is given as a text in a small notation: a column, or
`function::argument::argument`, and after it `=>alias` if the result has a name. `Key.parse` reads
the notation and `Key.render` writes SQL: the columns as identifiers of the dialect, the name of the
function and the alias as they are.
-/

set_option autoImplicit false

namespace DialectSql

open Text

/-- The expression of a key before its alias. -/
inductive KeyBase where
  | column (name : String)
  | call (function : String) (arguments : List String)
deriving DecidableEq, Repr

/-- An expression with the name that its result is given, if any. -/
structure Key where
  base : KeyBase
  label : Option String
deriving DecidableEq, Repr

/-- The text between an expression and its alias. -/
def aliasMarker : String := "=>"

/-- The text between a function and its arguments. -/
def functionMarker : String := "::"

namespace KeyBase

/-- Reads a trimmed expression that is not empty. The text before the first function marker is the
name of the function; the pieces after it are its arguments, even empty ones. -/
def parse (base : String) : Except KeyFault KeyBase :=
  match split functionMarker base with
  | function :: argument :: arguments =>
      match nonblank? function with
      | some f => .ok (.call f (argument :: arguments))
      | none => .error .emptyFunction
  | _ => .ok (.column base)

/-- The SQL of an expression. -/
def render (d : Dialect) : KeyBase → String
  | column name => d.identifier name
  | call function arguments =>
      function ++ "(" ++ ",".intercalate (arguments.map d.identifier) ++ ")"

end KeyBase

namespace Key

/-- Splits a trimmed text into the expression and the alias. -/
def parts (trimmed : String) : Except KeyFault (String × Option String) :=
  match split aliasMarker trimmed with
  | [base] => .ok (base, none)
  | [base, label] =>
      match nonblank? label with
      | some l => .ok (base, some l)
      | none => .error .emptyAlias
  | _ => .error .severalAliasMarkers

/-- Reads the notation. An alias is looked at before the expression. -/
def parse (expression : String) : Except KeyFault Key := do
  match nonblank? expression with
  | none => throw .emptyKey
  | some trimmed =>
      let (base, label) ← parts trimmed
      match nonblank? base with
      | none => throw .emptyBase
      | some b => return ⟨← KeyBase.parse b, label⟩

/-- The SQL of a key. -/
def render (d : Dialect) (k : Key) : String :=
  match k.label with
  | none => k.base.render d
  | some l => k.base.render d ++ " AS " ++ l

end Key

namespace Dialect

/-- The SQL of a key expression; a fault is reported with the expression as it was given. -/
def key (d : Dialect) (expression : String) : Except Error String :=
  match Key.parse expression with
  | .ok k => .ok (k.render d)
  | .error fault => .error (.invalidKey expression fault)

/-- Key expressions in order; the first faulty one is the error. -/
def keys (d : Dialect) (expressions : List String) : Except Error (List String) :=
  expressions.mapM d.key

end Dialect

end DialectSql
