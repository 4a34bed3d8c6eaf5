import DialectSql.Dialect.Basic

/-!
# Escaping of text literals

An `Escaper` turns a text into what stands between the quotes of a text literal. It is a value that
the caller may supply, since a connection to a database may bring its own. `Escaper.standard` is
the usual rule of a dialect: backslash sequences in MySQL, and elsewhere a quote written twice.
-/

set_option autoImplicit false

namespace DialectSql

/-- A text as it stands between the quotes of a literal. -/
abbrev Escaper := String → String

namespace Escaper

/-- The sequence of a backslash and a letter or sign for the characters that MySQL escapes. -/
def backslashed : Char → List Char
  | '\x00' => ['\\', '0']
  | '\x08' => ['\\', 'b']
  | '\n' => ['\\', 'n']
  | '\r' => ['\\', 'r']
  | '\t' => ['\\', 't']
  | '\x1a' => ['\\', 'Z']
  | '\'' => ['\\', '\'']
  | '"' => ['\\', '"']
  | '\\' => ['\\', '\\']
  | c => [c]

/-- A quote is written twice, any other character once. -/
def doubled (c : Char) : List Char := if c = '\'' then ['\'', '\''] else [c]

/-- The characters that stand for one character. -/
def standardChar (d : Dialect) (c : Char) : List Char :=
  if d.isMySQL then backslashed c else doubled c

/-- The standard rule of a dialect, character by character. -/
def standard (d : Dialect) : Escaper := fun s =>
  String.ofList (s.toList.flatMap (standardChar d))

/-- Leaves the text as it is. -/
def identity : Escaper := id

/-- The text between square brackets. -/
def bracketed : Escaper := fun s => "[" ++ s ++ "]"

end Escaper

end DialectSql
