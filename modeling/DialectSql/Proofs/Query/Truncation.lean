import DialectSql.Proofs.DelimitedReader
import DialectSql.Proofs.Query.Qualification

/-!
# Emptying a table in SQLite

SQLite has no statement that empties a table and starts its counter anew. Two deletions do it, and
the second one finds the counter by a text literal of the table's name. The name is escaped while
the placeholder stands for the prefix, and the prefix is put in as it is.

So the literal is escaped in its second half only (`readLiteral_half_escaped_iff`). The main
statement `truncate_in_sqlite` gives the text for every prefix and every name: the literal is one
that denotes the name of the table exactly if there is no quote in the prefix, whatever the name is.
-/

set_option autoImplicit false

namespace DialectSql

open Text DelimitedReader

/-! ## A literal that is escaped in its second half -/

theorem length_flatMap_doubled (cs : List Char) :
    (cs.flatMap Escaper.doubled).length = cs.length + cs.count '\'' := by
  induction cs with
  | nil => rfl
  | cons c cs ih =>
    rw [List.flatMap_cons, List.length_append, ih, Escaper.doubled]
    by_cases hc : c = '\''
    · subst hc
      rw [if_pos rfl, List.count_cons_self]
      simp only [List.length_cons, List.length_nil]
      omega
    · rw [if_neg hc, List.count_cons_of_ne hc]
      simp only [List.length_cons, List.length_nil]
      omega

/-- Characters in front of an escaped text are read as they are exactly if none of them is a
quote. -/
theorem readDoubled_append_flatMap_iff (raw cs : List Char) {rest : List Char}
    (hrest : rest.head? ≠ some '\'') :
    LiteralReader.readDoubled (raw ++ (cs.flatMap Escaper.doubled ++ '\'' :: rest)) =
        some (raw ++ cs, rest) ↔
      '\'' ∉ raw := by
  constructor
  · -- Each quote that is read took two characters, and those of the first half are there once.
    intro hread
    rw [readDoubled_eq_readDelimited] at hread
    have hlength := length_of_readDelimited hread
    simp only [List.length_append, List.length_cons, List.count_append,
      length_flatMap_doubled] at hlength
    exact List.count_eq_zero.mp (by omega)
  · intro hraw
    induction raw with
    | nil => exact LiteralReader.readText_escaped .sqlite cs hrest
    | cons c raw ih =>
      obtain ⟨hc, hraw'⟩ := not_or.mp (List.mem_cons.not.mp hraw)
      have hread := ih hraw'
      rw [readDoubled_eq_readDelimited] at hread ⊢
      rw [List.cons_append, readDelimited_cons (Ne.symm hc), hread]
      rfl

/-- A raw text and an escaped one between quotes are one literal of both exactly if there is no
quote in the raw text. -/
theorem readLiteral_half_escaped_iff (raw name : String) :
    LiteralReader.readLiteral .sqlite
        ("'" ++ raw ++ Escaper.standard .sqlite name ++ "'").toList =
        some (.text (raw ++ name), []) ↔
      '\'' ∉ raw.toList := by
  have hescaped : Escaper.standard .sqlite name =
      String.ofList (name.toList.flatMap Escaper.doubled) := rfl
  have hchars : ("'" ++ raw ++ Escaper.standard .sqlite name ++ "'").toList =
      '\'' :: (raw.toList ++ (name.toList.flatMap Escaper.doubled ++ ['\''])) := by
    simp [hescaped, String.toList_append]
  -- In SQLite no backslash is read as an escape.
  have htext : LiteralReader.readText .sqlite = LiteralReader.readDoubled := rfl
  have hend : ([] : List Char).head? ≠ some '\'' := by decide
  have hiff := readDoubled_append_flatMap_iff raw.toList name.toList hend
  rw [hchars, LiteralReader.readLiteral, htext, ← hiff, Option.map_eq_some_iff]
  constructor
  · rintro ⟨⟨text, rest⟩, hread, hpair⟩
    obtain ⟨hvalue, rfl⟩ := Prod.mk.inj hpair
    have hchars' := congrArg String.toList (LiteralReader.Token.text.inj hvalue)
    rw [String.toList_ofList, String.toList_append] at hchars'
    rw [hread, hchars']
  · intro hread
    refine ⟨_, hread, ?_⟩
    simp

/-! ## The statement -/

/-- The statement is the one with the prefix in its names from the start: in the reference as it is,
and in the literal in front of the escaped name. -/
theorem Query.sql_truncate_sqlite {q : Query} (hstyle : q.style = .standard .sqlite)
    {new table : String} (hname : trim table ≠ "") (hfree : ¬ Occurs tablePlaceholder table)
    (hnew : q.tablePrefix = new) (htable : q.fragments.table = some (trim table))
    (p : Parameters) :
    q.sql .truncate p = .ok ("DELETE FROM " ++ (new ++ trim table) ++
      "; DELETE FROM SQLITE_SEQUENCE WHERE name=" ++
        ("'" ++ new ++ Escaper.standard .sqlite (trim table) ++ "'")) := by
  have hdialect : q.dialect = .sqlite := congrArg Style.dialect hstyle
  have htexts : Unmarked (q.texts .truncate p) := by
    simp only [texts, htable]
    exact unmarked_cons.mpr ⟨not_occurs_trim hfree, unmarked_nil⟩
  have hstyle' : q.style = .standard q.dialect := by rw [hdialect, hstyle]
  rw [sql_eq_qualified hstyle' htexts]
  show Truncate.build q.dialect _ { table := q.fragments.table } = _
  rw [htable, Truncate.build, requireName_trim _ _ hname, hdialect, hstyle, hnew]
  show Except.ok ("DELETE FROM " ++ Dialect.sqlite.tableReference new (trim table) ++
    "; DELETE FROM SQLITE_SEQUENCE WHERE name=" ++
      ("'" ++ new ++ Escaper.standard .sqlite (trim (trim table)) ++ "'")) = _
  have hreference : Dialect.sqlite.tableReference new table = new ++ trim table := rfl
  rw [tableReference_trim, trim_trim, hreference]

namespace Session

/-- **A table is emptied in SQLite together with its counter exactly if there is no quote in the
prefix.** For every prefix and every name without the placeholder the two deletions are built; the
first one has the name of the table in it and the second one a literal, which is read as this name
and nothing after it exactly if the prefix has no quote. -/
theorem truncate_in_sqlite (s : Session) (hstyle : s.query.style = .standard .sqlite)
    (new table : String) (hname : trim table ≠ "") (hfree : ¬ Occurs tablePlaceholder table) :
    let full := trim new ++ trim table
    let literal := "'" ++ trim new ++ Escaper.standard .sqlite (trim table) ++ "'"
    ((s.run [.setTablePrefix new, .table table]).perform .truncate).1 =
        .ok (some ("DELETE FROM " ++ full ++ "; DELETE FROM SQLITE_SEQUENCE WHERE name=" ++
          literal)) ∧
      (LiteralReader.readLiteral .sqlite literal.toList = some (.text full, []) ↔
        '\'' ∉ (trim new).toList) := by
  intro full literal
  refine ⟨?_, readLiteral_half_escaped_iff (trim new) (trim table)⟩
  have hset := perform_of_setting (s := s) (c := .setTablePrefix new) rfl
  rw [run_cons, run_cons, run_nil, hset, perform_table _ hname]
  apply perform_build_fst
  refine Query.sql_truncate_sqlite ?_ hname hfree ?_ ?_ {}
  · exact hstyle
  · rfl
  · rfl

/-- A quote in the name is escaped, and the prefix has none. -/
theorem truncate_in_sqlite_quoted_name :
    let s : Session := { query := Query.ofDialect .sqlite }
    s.query.style = .standard .sqlite ∧ trim " o'x" ≠ "" ∧ ¬ Occurs tablePlaceholder " o'x" ∧
      ((s.run [.setTablePrefix "p_ ", .table " o'x"]).perform .truncate).1 = .ok (some
        "DELETE FROM p_o'x; DELETE FROM SQLITE_SEQUENCE WHERE name='p_o''x'") ∧
      LiteralReader.readLiteral .sqlite "'p_o''x'".toList = some (.text "p_o'x", []) := by
  intro s
  have hstyle : s.query.style = .standard .sqlite := rfl
  have hname : trim " o'x" ≠ "" := by decide
  have hfree : ¬ Occurs tablePlaceholder " o'x" := by decide
  obtain ⟨hanswer, hread⟩ := truncate_in_sqlite s hstyle "p_ " " o'x" hname hfree
  have hfull : trim "p_ " ++ trim " o'x" = "p_o'x" := by decide
  have hliteral : "'" ++ trim "p_ " ++ Escaper.standard .sqlite (trim " o'x") ++ "'" =
      "'p_o''x'" := by decide
  rw [hfull, hliteral] at hanswer hread
  exact ⟨hstyle, hname, hfree, hanswer, hread.mpr (by decide)⟩

/-- A quote in the prefix closes the literal. -/
theorem truncate_in_sqlite_quoted_prefix :
    let s : Session := { query := Query.ofDialect .sqlite }
    trim "t" ≠ "" ∧ ¬ Occurs tablePlaceholder "t" ∧
      ((s.run [.setTablePrefix "o'", .table "t"]).perform .truncate).1 = .ok (some
        "DELETE FROM o't; DELETE FROM SQLITE_SEQUENCE WHERE name='o't'") ∧
      LiteralReader.readLiteral .sqlite "'o't'".toList ≠ some (.text "o't", []) := by
  intro s
  have hanswer : ((s.run [.setTablePrefix "o'", .table "t"]).perform .truncate).1 = .ok (some
      "DELETE FROM o't; DELETE FROM SQLITE_SEQUENCE WHERE name='o't'") := by decide
  exact ⟨by decide, by decide, hanswer, by decide⟩

end Session

end DialectSql
