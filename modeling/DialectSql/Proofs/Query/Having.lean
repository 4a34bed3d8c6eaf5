import DialectSql.Proofs.BooleanExpression
import DialectSql.Proofs.Query.FragmentHistory
import DialectSql.Proofs.Query.Qualification
import DialectSql.Proofs.Query.Selection

/-!
# What several conditions on groups mean

The conditions on groups are written as they are given, with `AND` between them. A database reads
the whole as one expression, in which the `AND` comes before any `OR` of a clause: a clause with an
`OR` outside of parentheses comes apart, and the clauses next to it go with its first or its last
alternative.

The main statement `having_read_iff` says so of every query whose clauses are expressions: what
stands behind `HAVING` is the clauses with `AND` between them, it is read as one expression, and it
holds exactly where all clauses hold if there is only one clause or none has an `OR` outside of
parentheses, and only then.
-/

set_option autoImplicit false

namespace DialectSql

open BooleanReader Text

/-! ## Expressions with `AND` between them -/

/-- The lexemes of expressions with `AND` between them, each with an assignment of its own. -/
def conjunctionLexemes (cs : List (Expression × Assignment)) : List Lexeme :=
  [.connective .and].intercalate (cs.map fun c => c.1.lexemes c.2)

/-- The reading after expressions with `AND` between them. -/
def readAllFrom (s : Reading) (cs : List (Expression × Assignment)) : Reading :=
  cs.foldl (fun s c => c.1.readFrom c.2 s) s

theorem readAllFrom_append (s : Reading) (cs cs' : List (Expression × Assignment)) :
    readAllFrom s (cs ++ cs') = readAllFrom (readAllFrom s cs) cs' := List.foldl_append

/-- An `AND` goes on with the conjunction, so the expressions are read one after the other. -/
theorem readOperand_conjunctionLexemes {cs : List (Expression × Assignment)} (hne : cs ≠ [])
    (around : List Reading) (s : Reading) (rest : List Lexeme) :
    readOperand around s (conjunctionLexemes cs ++ rest) =
      readConnective around (readAllFrom s cs) rest := by
  -- The first expression may leave any reading behind, from which the others go on.
  induction cs generalizing s with
  | nil => exact absurd rfl hne
  | cons c cs ih =>
    cases cs with
    | nil => simpa [conjunctionLexemes, readAllFrom] using c.1.readOperand_lexemes c.2 around s rest
    | cons c' cs =>
      have hcons : conjunctionLexemes (c :: c' :: cs) =
          c.1.lexemes c.2 ++ (.connective .and :: conjunctionLexemes (c' :: cs)) := by
        simp [conjunctionLexemes, List.intercalate_cons_cons]
      rw [hcons, List.append_assoc, Expression.readOperand_lexemes, List.cons_append,
        readConnective, ih (List.cons_ne_nil c' cs)]
      rfl

theorem readExpression_conjunctionLexemes {cs : List (Expression × Assignment)} (hne : cs ≠ []) :
    readExpression (conjunctionLexemes cs) = some (readAllFrom {} cs).value := by
  have hread := readOperand_conjunctionLexemes hne [] {} []
  rw [List.append_nil] at hread
  rw [readExpression, hread]
  rfl

/-- Texts of expressions with `AND` between them are a text of the whole. -/
theorem areWritten_conjunctionLexemes {cs : List (Expression × Assignment)} {texts : List String}
    (h : List.Forall₂ (fun text c => AreWritten (c.1.lexemes c.2) text) texts cs) :
    AreWritten (conjunctionLexemes cs) (" AND ".intercalate texts) := by
  have hand : AreWritten [.connective .and] " AND " := .of_spelled rfl
  apply hand.intercalate
  rw [List.forall₂_map_left_iff]
  exact h.flip

/-! ## Where the whole holds -/

/-- Expressions without an outer `OR` are as many operands of the conjunction. -/
theorem readAllFrom_of_not_hasOuterOr {cs : List (Expression × Assignment)}
    (h : ∀ c ∈ cs, c.1.hasOuterOr = false) (s : Reading) :
    readAllFrom s cs = s.operand (cs.all fun c => c.1.value c.2) := by
  induction cs generalizing s with
  | nil => simp [readAllFrom, Reading.operand]
  | cons c cs ih =>
    obtain ⟨hc, hcs⟩ := List.forall_mem_cons.mp h
    show readAllFrom (c.1.readFrom c.2 s) cs = _
    rw [Expression.readFrom_of_not_hasOuterOr hc, ih hcs]
    simp [Reading.operand, Bool.and_assoc]

/-- Expressions with the same truth value for all of their predicates. -/
def allConstant (b : Bool) (es : List Expression) : List (Expression × Assignment) :=
  es.map fun e => (e, .constant b)

theorem readAllFrom_false {es : List Expression} (hne : es ≠ []) (s : Reading) :
    readAllFrom s (allConstant false es) = s.operand false := by
  induction es generalizing s with
  | nil => exact absurd rfl hne
  | cons e es ih =>
    show readAllFrom (e.readFrom (.constant false) s) (allConstant false es) = _
    rw [Expression.readFrom_false]
    by_cases hnil : es = []
    · rw [hnil]
      rfl
    · rw [ih hnil]
      simp [Reading.operand]

/-- Where all predicates hold, what has been read is a conjunction that holds. -/
theorem readAllFrom_true (es : List Expression) (b : Bool) :
    ∃ b', readAllFrom { alternatives := b } (allConstant true es) = { alternatives := b' } := by
  induction es generalizing b with
  | nil => exact ⟨b, rfl⟩
  | cons e es ih =>
    show ∃ b', readAllFrom (e.readFrom (.constant true) { alternatives := b }) _ = _
    rw [Expression.readFrom_true]
    exact ih _

/-- An expression with an outer `OR` among others can make the whole true where one of them is
false: its first alternative is enough if there is an expression behind it, and its last one if
there is one in front of it. -/
theorem exists_misread {es : List Expression} (hlength : es.length ≠ 1) {e : Expression}
    (he : e ∈ es) (hor : e.hasOuterOr = true) :
    ∃ cs : List (Expression × Assignment), cs.map Prod.fst = es ∧
      (readAllFrom {} cs).value = true ∧ ∃ c ∈ cs, c.1.value c.2 = false := by
  obtain ⟨before, after, rfl⟩ := List.append_of_mem he
  by_cases hafter : after = []
  · -- Nothing is behind it: what is in front of it is false, and its last alternative holds.
    subst hafter
    have hbefore : before ≠ [] := by
      rintro rfl
      exact hlength rfl
    obtain ⟨first, hfirst⟩ := List.exists_mem_of_ne_nil before hbefore
    refine ⟨allConstant false before ++ [(e, .constant true)], ?_, ?_, (first, .constant false), ?_,
      first.value_constant false⟩
    · simp [allConstant, Function.comp_def]
    · rw [readAllFrom_append]
      show (e.readFrom _ _).value = true
      rw [Reading.value, Expression.conjunction_readFrom_true hor, Bool.or_true]
    · exact List.mem_append_left _ (List.mem_map_of_mem hfirst)
  · -- What is behind it is false, and its first alternative holds with all that is in front of it.
    obtain ⟨last, hlast⟩ := List.exists_mem_of_ne_nil after hafter
    obtain ⟨b, hb⟩ := readAllFrom_true before false
    refine ⟨allConstant true before ++ (e, .constant true) :: allConstant false after, ?_, ?_,
      (last, .constant false), ?_, last.value_constant false⟩
    · simp [allConstant, Function.comp_def]
    · rw [readAllFrom_append, hb]
      show (readAllFrom (e.readFrom (.constant true) { alternatives := b }) _).value = true
      rw [Expression.readFrom_true, readAllFrom_false hafter, hor]
      simp [Reading.operand, Reading.value]
    · exact List.mem_append_right _ (List.mem_cons_of_mem _ (List.mem_map_of_mem hlast))

/-- The whole holds exactly where all expressions hold, whatever the truth values are, if there is
only one expression or none has an outer `OR`, and only then. -/
theorem read_conjunction_iff {es : List Expression} (hne : es ≠ []) :
    (∀ cs : List (Expression × Assignment), cs.map Prod.fst = es →
        (readExpression (conjunctionLexemes cs) = some true ↔
          ∀ c ∈ cs, readExpression (c.1.lexemes c.2) = some true)) ↔
      es.length = 1 ∨ ∀ e ∈ es, e.hasOuterOr = false := by
  constructor
  · intro hall
    by_cases hlength : es.length = 1
    · exact Or.inl hlength
    · right
      intro e he
      by_contra hor
      obtain ⟨cs, hcs, hwhole, c, hc, hvalue⟩ := exists_misread hlength he (by simpa using hor)
      have htrue : readExpression (conjunctionLexemes cs) = some true := by
        rw [readExpression_conjunctionLexemes (List.ne_nil_of_mem hc), hwhole]
      have hread := (hall cs hcs).mp htrue c hc
      rw [Expression.readExpression_lexemes, hvalue] at hread
      cases hread
  · intro h cs hcs
    have hne' : cs ≠ [] := by
      rintro rfl
      exact hne hcs.symm
    simp only [readExpression_conjunctionLexemes hne', Expression.readExpression_lexemes,
      Option.some.injEq]
    rcases h with hlength | hor
    · have hone : cs.length = 1 := by rw [← hlength, ← hcs, List.length_map]
      obtain ⟨c, rfl⟩ := List.length_eq_one_iff.mp hone
      rw [List.forall_mem_singleton]
      rfl
    · have hor' : ∀ c ∈ cs, c.1.hasOuterOr = false := fun c hc =>
        hor c.1 (hcs ▸ List.mem_map_of_mem hc)
      rw [readAllFrom_of_not_hasOuterOr hor']
      simp [Reading.operand, Reading.value]

/-! ## The place of the clauses in a selection -/

namespace Select

/-- The selection up to its conditions on groups. -/
def upToGroups (s : Select) : Select :=
  { s with having := [], orderBy := [], limit := 0, offset := 0 }

/-- A selection that is not refused is the selection up to its conditions on groups, and then
these. -/
theorem exists_upToGroups {d : Dialect} {n : TableNaming} {s : Select} {sql : String}
    (h : s.build d n = .ok sql) :
    ∃ start, s.upToGroups.build d n = .ok start ∧
      sql = start ++ (clause "HAVING" (" AND ".intercalate s.having) ++
        (clause "ORDER BY" (", ".intercalate s.orderBy) ++
          limitClause d s.limit s.offset (!s.orderBy.isEmpty))) := by
  -- The conditions on groups are the third clause.
  have hback : String.join ((s.upToGroups.clauses d).drop 2) = "" := by
    simp [clauses, upToGroups, limitClause]
  obtain ⟨start, hstart, rfl⟩ := exists_cut h 2 s.upToGroups rfl (fun _ => rfl) rfl hback
  exact ⟨start, hstart, by simp [clauses]⟩

end Select

/-- A clause starts with a blank, so no placeholder reaches into it from the front. -/
theorem startsApart_clause (keyword body : String) :
    startsApart tablePlaceholder (clause keyword body) = true := by
  by_cases hbody : body = ""
  · rw [hbody, clause_empty]
    rfl
  · rw [clause_of_ne_empty hbody, String.append_assoc, String.append_assoc]
    exact startsApart_append_of_ne_empty (by decide) (by decide) _

namespace Query

/-- The query up to its conditions on groups. -/
def upToGroups (q : Query) : Query :=
  { q with fragments := { q.fragments with having := [], orderBy := [] } }

/-- A text as it stands in the statements of a query: the prefix is put in for its placeholder. -/
def prefixed (q : Query) (text : String) : String := replace tablePlaceholder q.tablePrefix text

/-- The prefix is put into the selection, the conditions on groups and the order apart, since the
words between them start and end with a blank. -/
theorem prefixed_selection (q : Query) (start : String) (having : List String) (order : String)
    (d : Dialect) (limit offset : Nat) (ordered : Bool) :
    q.prefixed (start ++ (" HAVING " ++ " AND ".intercalate having ++
        (clause "ORDER BY" order ++ limitClause d limit offset ordered))) =
      q.prefixed start ++ " HAVING " ++ " AND ".intercalate (having.map q.prefixed) ++
        q.prefixed (clause "ORDER BY" order) ++ limitClause d limit offset ordered := by
  have hlimit := trailing_limitClause d limit offset ordered
  have hbehind : startsApart tablePlaceholder
      (clause "ORDER BY" order ++ limitClause d limit offset ordered) = true :=
    startsApart_append (startsApart_clause "ORDER BY" order) hlimit.startsApart
  have hsplit (behind : String) :
      start ++ (" HAVING " ++ " AND ".intercalate having ++ behind) =
        start ++ " HAVING " ++ " AND ".intercalate having ++ behind := by
    simp only [String.append_assoc]
  unfold prefixed
  rw [hsplit, replace_append_of_apart tablePlaceholder_ne_empty _ (Or.inr hbehind),
    replace_append_separator tablePlaceholder_ne_empty _ (by decide),
    replace_intercalate tablePlaceholder_ne_empty _ (by decide),
    replace_append_of_apart tablePlaceholder_ne_empty _ (Or.inr hlimit.startsApart),
    replace_of_not_occurs _ hlimit.unmarked, ← String.append_assoc]

/-- A selection with conditions on groups is the one of the query up to them, and then these. -/
theorem exists_upToGroups {q : Query} (h : " AND ".intercalate q.fragments.having ≠ "")
    {p : Parameters} {sql : String} (hsql : q.sql .get p = .ok sql) :
    ∃ start, q.upToGroups.sql .get {} = .ok start ∧
      sql = start ++ " HAVING " ++ " AND ".intercalate (q.fragments.having.map q.prefixed) ++
        q.prefixed (clause "ORDER BY" (", ".intercalate q.fragments.orderBy)) ++
        limitClause q.dialect p.limit p.offset (!q.fragments.orderBy.isEmpty) := by
  rw [sql_eq_map, template_get_eq] at hsql
  obtain ⟨written, hwritten, rfl⟩ := exists_of_map_eq_ok hsql
  obtain ⟨w, hw, hbuild⟩ := exists_of_bind_eq_ok hwritten
  obtain ⟨start, hstart, rfl⟩ := Select.exists_upToGroups hbuild
  refine ⟨q.prefixed start, ?_, ?_⟩
  · have hcondition : q.upToGroups.conditionSql = .ok w := hw
    rw [sql_eq_map, template_get_eq, hcondition]
    exact congrArg (Except.map q.prefixed) hstart
  · have hclause : clause "HAVING" (" AND ".intercalate (q.selection p w).having) =
        " HAVING " ++ " AND ".intercalate q.fragments.having := clause_of_ne_empty h
    rw [hclause]
    exact q.prefixed_selection start _ _ _ _ _ _

end Query

/-! ## Calls -/

/-- Only a call on the conditions on groups sets them. -/
theorem Call.having_eq_of_edit {c : Call} {st : Style} {f : Fragments → Fragments}
    (h : c.edit st = some (.ok f)) (hc : c.isOn .having = false) (fragments : Fragments) :
    (f fragments).having = fragments.having := by
  cases edits_of_edit h with
  | having _ => cases hc
  | _ => rfl

namespace Session

/-- An accepted call has clauses, none of them blank, and keeps them trimmed. -/
theorem having_of_accepted {s : Session} {clauses : List String}
    (h : (s.perform (.having clauses)).1 = .ok none) :
    clauses ≠ [] ∧ (∀ c ∈ clauses, trim c ≠ "") ∧
      (s.perform (.having clauses)).2.query.fragments.having = clauses.map trim := by
  have hedit : (Call.having clauses).edit s.query.style = some
      (if clauses = [] ∨ clauses.any (trim · = "") then .error (.invalidClause .having .emptyClause)
        else .ok fun f => { f with having := clauses.map trim }) := rfl
  rw [perform_of_edit hedit] at h ⊢
  split at h
  · cases h
  · next hclauses =>
    obtain ⟨hne, hblank⟩ := not_or.mp hclauses
    refine ⟨hne, ?_, ?_⟩
    · intro c hc hempty
      exact hblank (List.any_eq_true.mpr ⟨c, hc, by simpa using hempty⟩)
    · rw [if_neg hclauses]
      rfl

/-- Calls on other fragments leave the conditions on groups as they are. -/
theorem having_run {s : Session} {calls : List Call} (hkeeps : s.keeps calls = true)
    (hcalls : ∀ c ∈ calls, c.isOn .having = false) :
    (s.run calls).query.fragments.having = s.query.fragments.having := by
  induction calls generalizing s with
  | nil => rfl
  | cons c calls ih =>
    obtain ⟨hclears, hrest⟩ := Bool.and_eq_true_iff.mp hkeeps
    obtain ⟨hc, hcalls⟩ := List.forall_mem_cons.mp hcalls
    rw [run_cons, ih hrest hcalls]
    rcases fragments_perform_of_not_clears (by simpa using hclears) with
      hsame | ⟨f, hf, -, hchanged⟩
    · rw [hsame]
    · rw [hchanged, Call.having_eq_of_edit hf hc]

/-- **What the conditions on groups mean.** The clauses of an accepted call are expressions, and
neither is the query cleared nor are the clauses replaced before it is built. Then the clauses stand
behind `HAVING` with `AND` between them, and are read as one expression. It holds exactly where all
clauses hold, whatever the truth values of the predicates are, if there is only one clause or none
has an `OR` outside of parentheses, and only then. -/
theorem having_read_iff {s : Session} {clauses : List String} {later : List Call} {q : Query}
    {es : List Expression} (haccepted : (s.perform (.having clauses)).1 = .ok none)
    (hkeeps : (s.perform (.having clauses)).2.keeps later = true)
    (hlater : ∀ c ∈ later, c.isOn .having = false)
    (hq : ((s.perform (.having clauses)).2.run later).query = q)
    (hes : List.Forall₂ (fun clause e => ∀ v, AreWritten (e.lexemes v) (q.prefixed (trim clause)))
      clauses es) :
    let text := " AND ".intercalate (clauses.map fun clause => q.prefixed (trim clause))
    (∀ p sql, q.sql .get p = .ok sql →
        ∃ start, q.upToGroups.sql .get {} = .ok start ∧
          sql = start ++ " HAVING " ++ text ++
            q.prefixed (clause "ORDER BY" (", ".intercalate q.fragments.orderBy)) ++
            limitClause q.dialect p.limit p.offset (!q.fragments.orderBy.isEmpty)) ∧
      (∀ cs : List (Expression × Assignment), cs.map Prod.fst = es →
        AreWritten (conjunctionLexemes cs) text ∧
          ∃ b, readExpression (conjunctionLexemes cs) = some b) ∧
      ((∀ cs : List (Expression × Assignment), cs.map Prod.fst = es →
          (readExpression (conjunctionLexemes cs) = some true ↔
            ∀ c ∈ cs, readExpression (c.1.lexemes c.2) = some true)) ↔
        es.length = 1 ∨ ∀ e ∈ es, e.hasOuterOr = false) := by
  intro text
  obtain ⟨hne, hblank, hset⟩ := having_of_accepted haccepted
  have hhaving : q.fragments.having = clauses.map trim := by
    rw [← hq, having_run hkeeps hlater, hset]
  have hnees : es ≠ [] := by
    rintro rfl
    cases hes
    exact hne rfl
  refine ⟨?_, ?_, read_conjunction_iff hnees⟩
  · intro p sql hsql
    have hnonempty : " AND ".intercalate q.fragments.having ≠ "" := by
      rw [hhaving]
      apply intercalate_ne_empty
      · simpa using hne
      · simpa using hblank
    obtain ⟨start, hstart, htext⟩ := Query.exists_upToGroups hnonempty hsql
    have htexts : q.fragments.having.map q.prefixed =
        clauses.map fun clause => q.prefixed (trim clause) := by
      rw [hhaving, List.map_map, Function.comp_def]
    rw [htexts] at htext
    exact ⟨start, hstart, htext⟩
  · intro cs hcs
    subst hcs
    have hwritten : List.Forall₂ (fun text c => AreWritten (c.1.lexemes c.2) text)
        (clauses.map fun clause => q.prefixed (trim clause)) cs := by
      rw [List.forall₂_map_left_iff]
      exact (List.forall₂_map_right_iff.mp hes).imp fun _ c h => h c.2
    have hnecs : cs ≠ [] := by
      rintro rfl
      exact hnees rfl
    exact ⟨areWritten_conjunctionLexemes hwritten, _, readExpression_conjunctionLexemes hnecs⟩

/-- In parentheses, here with blanks and a word in lower case, the `OR` stays with its two sides.
The placeholder in a predicate becomes the prefix. -/
theorem having_read_iff_group :
    let clauses := [" ( a or b > 1 ) ", "*_DBPREFIX_*t.c AND d > 1"]
    let s : Session := { query := .ofDialect .postgresql }
    let later : List Call := [.table "t", .keys ["a"], .setTablePrefix "p_", .orderBy ["a"] []]
    let q := ((s.perform (.having clauses)).2.run later).query
    let es : List Expression :=
      [.enclosed (.joined (.atom "a") .or (.atom "b > 1")),
        .joined (.atom "p_t.c") .and (.atom "d > 1")]
    (s.perform (.having clauses)).1 = .ok none ∧
      (s.perform (.having clauses)).2.keeps later = true ∧
      (∀ c ∈ later, c.isOn .having = false) ∧
      List.Forall₂ (fun clause e => ∀ v, AreWritten (e.lexemes v) (q.prefixed (trim clause)))
        clauses es ∧
      q.sql .get {} = .ok "SELECT a FROM p_t HAVING ( a or b > 1 ) AND p_t.c AND d > 1 ORDER BY a" ∧
      ∀ cs : List (Expression × Assignment), cs.map Prod.fst = es →
        (readExpression (conjunctionLexemes cs) = some true ↔
          ∀ c ∈ cs, readExpression (c.1.lexemes c.2) = some true) := by
  intro clauses s later q es
  have haccepted : (s.perform (.having clauses)).1 = .ok none := rfl
  have hkeeps : (s.perform (.having clauses)).2.keeps later = true := by decide
  have hlater : ∀ c ∈ later, c.isOn .having = false := by simp [later, Call.isOn, Call.slot?]
  have hparts : String.join ["( ", "a", " or ", "b > 1", " )"] =
      q.prefixed (trim " ( a or b > 1 ) ") := by decide
  have hfirst (v : Assignment) :
      AreWritten (es[0].lexemes v) (q.prefixed (trim " ( a or b > 1 ) ")) :=
    ⟨["( ", "a", " or ", "b > 1", " )"],
      .cons (by decide) (.cons rfl (.cons (by decide) (.cons rfl (.cons (by decide) .nil)))),
      hparts.symm⟩
  have hwords :
      "p_t.c" ++ (" AND " ++ "d > 1") = q.prefixed (trim "*_DBPREFIX_*t.c AND d > 1") := by decide
  have hsecond (v : Assignment) :
      AreWritten (es[1].lexemes v) (q.prefixed (trim "*_DBPREFIX_*t.c AND d > 1")) :=
    .of_spelled hwords
  have hes : List.Forall₂ (fun clause e => ∀ v, AreWritten (e.lexemes v) (q.prefixed (trim clause)))
      clauses es := .cons hfirst (.cons hsecond .nil)
  refine ⟨haccepted, hkeeps, hlater, hes, congrArg Except.ok (by decide), ?_⟩
  exact (having_read_iff haccepted hkeeps hlater rfl hes).2.2.mpr (Or.inr (by decide))

/-- Without parentheses the second clause goes with the last alternative of the first one: where
only `a > 1` holds, the whole holds and the second clause does not. -/
theorem having_or_read_with_next :
    let clauses := ["a > 1 OR b > 1", "c > 1"]
    let s : Session := { query := .ofDialect .postgresql }
    let calls : List Call := [.table "t", .keys ["a"], .having clauses]
    let cs : List (Expression × Assignment) :=
      [(.joined (.atom "a > 1") .or (.atom "b > 1"), fun path => path == [.left]),
        (.atom "c > 1", .constant false)]
    (s.run calls).query.sql .get {} = .ok "SELECT a FROM t HAVING a > 1 OR b > 1 AND c > 1" ∧
      List.Forall₂ (fun clause c => AreWritten (c.1.lexemes c.2) (trim clause)) clauses cs ∧
      AreWritten (conjunctionLexemes cs) "a > 1 OR b > 1 AND c > 1" ∧
      readExpression (conjunctionLexemes cs) = some true ∧
      cs.map (fun c => readExpression (c.1.lexemes c.2)) = [some true, some false] := by
  intro clauses s calls cs
  refine ⟨congrArg Except.ok (by decide), ?_, .of_spelled rfl, by decide, by decide⟩
  exact .cons (.of_spelled rfl) (.cons (.of_spelled rfl) .nil)

end Session

end DialectSql
