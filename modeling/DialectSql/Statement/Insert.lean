import DialectSql.Statement.Clause

/-!
# Insertions

`INSERT` of one row or of several rows of the same width. The wildcard among the keys stands for no
column; the other keys, if there are any, are as many as the values of a row. Several rows are
written as the dialect has it: a list of values, or a union of selections.
-/

set_option autoImplicit false

namespace DialectSql

/-- The fragments of an insertion, written already. -/
structure Insert where
  table : Option String := none
  keys : List String := []
  rows : List (List String) := []
deriving DecidableEq, Repr

namespace Insert

/-- The keys that name a column. -/
def columns (s : Insert) : List String := s.keys.filter (· ≠ "*")

/-- Checks that there are values, that the rows have one width and that the keys go with it. -/
def checkRows (s : Insert) : Except Error Unit :=
  match s.rows with
  | [] => .error (.missing .store .values)
  | first :: rest =>
      if first = [] then .error (.missing .store .values)
      else
        match (first :: rest).zipIdx.find? (fun (row, _) => row.length != first.length) with
        | some (row, i) =>
            .error (.mismatched .store (.rowWidth i row.length first.length))
        | none =>
            if s.columns ≠ [] ∧ s.columns.length ≠ first.length then
              .error (.mismatched .store (.keyCount s.columns.length first.length))
            else .ok ()

/-- The words up to the table and the list of columns, if there is one. -/
def head (reference : String) (s : Insert) : String :=
  "INSERT INTO " ++ reference ++
    (if s.columns = [] then "" else " (" ++ listed "," s.columns ++ ")")

/-- The rows as a list of values. -/
def valuesText (reference : String) (s : Insert) : String :=
  s.head reference ++ " VALUES " ++
    ", ".intercalate (s.rows.map fun row => "(" ++ listed "," row ++ ")")

/-- The rows as selections from a table of one row, with duplicates kept. -/
def dualUnionText (reference : String) (s : Insert) : String :=
  s.head reference ++ " " ++
    " UNION ALL ".intercalate
      (s.rows.map fun row => "SELECT " ++ listed "," row ++ " FROM DUAL")

/-- The rows as a union of selections, of which the first names the columns. -/
def aliasedUnionText (reference : String) (s : Insert) : String :=
  let named (row : List String) := row.zipWith (fun v k => v ++ " AS " ++ k) s.columns
  let selections :=
    match s.rows with
    | [] => []
    | first :: rest => named first :: rest
  "INSERT INTO " ++ reference ++ " " ++
    " UNION ".intercalate (selections.map fun items => "SELECT " ++ listed ", " items)

/-- An insertion needs a table and values; a union of selections needs the names of the columns. -/
def build (d : Dialect) (n : TableNaming) (s : Insert) : Except Error String := do
  let table ← requireName .store .table s.table
  s.checkRows
  if s.rows.length = 1 then return s.valuesText (n.reference table)
  match d.multiRowForm with
  | .valuesList => return s.valuesText (n.reference table)
  | .dualUnion => return s.dualUnionText (n.reference table)
  | .aliasedUnion =>
      if s.columns = [] then throw (.missing .store .keys)
      return s.aliasedUnionText (n.reference table)

end Insert

end DialectSql
