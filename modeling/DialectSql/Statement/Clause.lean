import DialectSql.Style
import DialectSql.Text.Blank

/-!
# Parts of statements

What the statements have in common: lists of items, clauses that are left out when they are empty,
the table that a statement cannot do without, and the two ways in which a statement names a table.
-/

set_option autoImplicit false

namespace DialectSql

open Text

/-- The items that are not empty, with a separator between them. -/
def listed (separator : String) (items : List String) : String :=
  separator.intercalate (items.filter (! ·.isEmpty))

/-- A space, a keyword, a space and the body; nothing at all if the body is empty. -/
def clause (keyword body : String) : String :=
  if body = "" then "" else " " ++ keyword ++ " " ++ body

/-- The clause of a body that may be missing. -/
def optionalClause (keyword : String) : Option String → String
  | some body => clause keyword body
  | none => ""

/-- The trimmed name of a table, which must be given and not be blank. -/
def requireName (o : Operation) (r : Requirement) (name : Option String) : Except Error String :=
  match name.bind nonblank? with
  | some n => .ok n
  | none => .error (.missing o r)

/-- How a statement names a table: by a reference, or by a text literal that denotes its name. -/
structure TableNaming where
  reference : String → String
  literal : String → String

/-- Names of tables that start with the placeholder of the prefix. -/
def TableNaming.placeholder (st : Style) : TableNaming where
  reference := st.dialect.tableReference tablePlaceholder
  literal table := st.quote (tablePlaceholder ++ trim table)

/-- Names of tables that start with a given prefix. The prefix stands in a literal as it is, in
front of the escaped name. -/
def TableNaming.qualified (st : Style) (qualifier : String) : TableNaming where
  reference := st.dialect.tableReference qualifier
  literal table := "'" ++ qualifier ++ st.escaper (trim table) ++ "'"

@[simp] theorem clause_empty (keyword : String) : clause keyword "" = "" := rfl

theorem clause_of_ne_empty {keyword body : String} (h : body ≠ "") :
    clause keyword body = " " ++ keyword ++ " " ++ body := by
  simp [clause, h]

/-- No item is left out of a list of items that are not empty. -/
theorem listed_eq_intercalate {separator : String} {items : List String}
    (h : ∀ s ∈ items, s ≠ "") : listed separator items = separator.intercalate items := by
  unfold listed
  rw [List.filter_eq_self.mpr]
  intro s hs
  simp [h s hs]

end DialectSql
