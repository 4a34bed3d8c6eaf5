import DialectSql.Proofs.LiteralReader
import DialectSql.Proofs.Query.Selection
import DialectSql.Proofs.Text.Spelling

/-!
# Reading a limit

A database reads from the last clause of a selection how many rows to take and how many to skip in
front of them. `readLexemes` cuts the text of a clause into words, numbers, commas and blanks, and
`limitOfLexemes` has the grammar of each dialect: where the two numbers stand, which of them comes
first, and whether the offset may be missing. The reader does not know how clauses are written.

The main statement `limits_read_back` says that it reads every limit and offset from the clause that
is written for them. A limit of zero is none: then there is no clause, and the offset is in no part
of the selection.
-/

set_option autoImplicit false

namespace DialectSql

open Text

namespace LimitReader

/-! ## Lexemes -/

/-- What the text of a clause consists of. -/
inductive Lexeme where
  | word (letters : String)
  | number (value : Nat)
  | comma
  | blank
deriving DecidableEq, Repr

/-- The text of a lexeme. -/
def Lexeme.text : Lexeme → String
  | word letters => letters
  | number value => value.repr
  | comma => ","
  | blank => " "

/-- A comma or a blank and what follows it. -/
def readMark : List Char → Option (Lexeme × List Char)
  | ',' :: rest => some (.comma, rest)
  | ' ' :: rest => some (.blank, rest)
  | _ => none

/-- The longest run of digits or letters, or else a comma or a blank, and what follows it. -/
def readLexeme (cs : List Char) : Option (Lexeme × List Char) :=
  match LiteralReader.takeRun Char.isDigit cs with
  | some (digits, rest) => some (.number (Nat.ofDigitChars 10 digits 0), rest)
  | none =>
      match LiteralReader.takeRun Char.isAlpha cs with
      | some (letters, rest) => some (.word (String.ofList letters), rest)
      | none => readMark cs

/-- Every lexeme has at least one character. -/
theorem readLexeme_length_lt {cs rest : List Char} {l : Lexeme}
    (h : readLexeme cs = some (l, rest)) : rest.length < cs.length := by
  unfold readLexeme at h
  split at h
  · next hrun =>
    cases h
    exact LiteralReader.takeRun_length_lt hrun
  · split at h
    · next hrun =>
      cases h
      exact LiteralReader.takeRun_length_lt hrun
    · unfold readMark at h
      split at h
      · cases h
        exact Nat.lt_succ_self _
      · cases h
        exact Nat.lt_succ_self _
      · cases h

/-- The lexemes that make up all of the text. -/
def readLexemes (cs : List Char) : Option (List Lexeme) :=
  if cs = [] then some []
  else
    match _h : readLexeme cs with
    | some (l, rest) => (readLexemes rest).map (l :: ·)
    | none => none
termination_by cs.length
decreasing_by exact readLexeme_length_lt _h

/-! ## Grammars -/

/-- `OFFSET m ROWS FETCH NEXT n ROWS ONLY` -/
def offsetFetch : List Lexeme → Option (Nat × Nat)
  | [.word "OFFSET", .number offset, .word "ROWS", .word "FETCH", .word "NEXT", .number limit,
      .word "ROWS", .word "ONLY"] => some (limit, offset)
  | _ => none

/-- What follows an order that changes nothing. -/
def skipOrder : List Lexeme → List Lexeme
  | .word "ORDER" :: .word "BY" :: .number 1 :: ls => ls
  | ls => ls

/-- The limit and the offset that a clause without blanks gives in a dialect. A missing offset is
zero. -/
def limitOfLexemes : Dialect → List Lexeme → Option (Nat × Nat)
  | .mysqli, ls | .mysqlPdo, ls =>
      match ls with
      | [.word "LIMIT", .number limit] => some (limit, 0)
      | [.word "LIMIT", .number offset, .comma, .number limit] => some (limit, offset)
      | _ => none
  | .postgresql, ls | .sqlite, ls =>
      match ls with
      | [.word "LIMIT", .number limit] => some (limit, 0)
      | [.word "LIMIT", .number limit, .word "OFFSET", .number offset] => some (limit, offset)
      | _ => none
  | .oracle, ls => offsetFetch ls
  | .sqlServer, ls => offsetFetch (skipOrder ls)
  | .db2, ls =>
      match ls with
      | [.word "FETCH", .word "FIRST", .number limit, .word "ROWS", .word "ONLY"] =>
          some (limit, 0)
      | [.word "OFFSET", .number offset, .word "ROWS", .word "FETCH", .word "FIRST",
          .number limit, .word "ROWS", .word "ONLY"] => some (limit, offset)
      | _ => none

/-- The limit and the offset that a clause gives in a dialect. -/
def read (d : Dialect) (clause : String) : Option (Nat × Nat) :=
  (readLexemes clause.toList).bind fun ls => limitOfLexemes d (ls.filter (· ≠ .blank))

/-! ## Lexemes that have been written -/

/-- Whether the lexeme is one character that ends a run in front of it. -/
def Lexeme.isMark : Lexeme → Bool
  | comma | blank => true
  | word _ | number _ => false

/-- Whether a word has letters and nothing else. -/
def Lexeme.isProper : Lexeme → Bool
  | word letters => !letters.toList.isEmpty && letters.toList.all Char.isAlpha
  | _ => true

/-- Whether there is a mark between any two runs. -/
def isSpaced : List Lexeme → Bool
  | [] => true
  | [l] => l.isProper
  | l :: next :: ls => l.isProper && (l.isMark || next.isMark) && isSpaced (next :: ls)

/-- The characters that would be read on into the lexeme. -/
def Lexeme.continues : Lexeme → Char → Bool
  | word _, c => c.isAlpha
  | number _, c => c.isDigit
  | comma, _ | blank, _ => false

/-- A mark is not continued and continues nothing. -/
theorem Lexeme.continues_of_isMark {l next : Lexeme} (h : (l.isMark || next.isMark) = true) :
    ∀ c ∈ next.text.toList.head?, l.continues c = false := by
  cases l with
  | comma | blank => exact fun _ _ => rfl
  | word letters | number value =>
    cases next with
    | word letters | number value => cases h
    | comma | blank =>
      rintro c ⟨⟩
      rfl

theorem Lexeme.text_ne_empty {l : Lexeme} (h : l.isProper = true) : l.text.toList ≠ [] := by
  cases l with
  | word letters =>
    intro hnone
    have hnone' : letters.toList = [] := hnone
    rw [isProper, hnone'] at h
    cases h
  | number value =>
    rw [text, Nat.toList_repr]
    exact Nat.toDigits_ne_nil
  | comma | blank => exact List.cons_ne_nil _ _

/-- A lexeme is read as itself if nothing behind it continues it. -/
theorem readLexeme_text {l : Lexeme} (h : l.isProper = true) {rest : List Char}
    (hrest : ∀ c ∈ rest.head?, l.continues c = false) :
    readLexeme (l.text.toList ++ rest) = some (l, rest) := by
  have hne := Lexeme.text_ne_empty h
  cases l with
  | word letters =>
    have hletters : ∀ c ∈ letters.toList, c.isAlpha = true :=
      List.all_eq_true.mp (Bool.and_eq_true_iff.mp h).2
    have hrun := LiteralReader.takeRun_append hne hletters hrest
    -- A word starts with a letter, so there is no run of digits in front of it.
    obtain ⟨c, cs, hcs⟩ := List.exists_cons_of_ne_nil hne
    have hc : c.isAlpha = true := hletters c (hcs ▸ List.mem_cons_self)
    have hdigits :
        LiteralReader.takeRun Char.isDigit ((Lexeme.word letters).text.toList ++ rest) = none := by
      rw [hcs, List.cons_append]
      exact LiteralReader.takeRun_eq_none _ (LiteralReader.isDigit_eq_false_of_isAlpha hc)
    rw [readLexeme, hdigits, hrun]
    simp only [Lexeme.text, String.ofList_toList]
  | number value =>
    have hdigits : ∀ c ∈ Nat.toDigits 10 value, c.isDigit = true := fun _ hc =>
      Nat.isDigit_of_mem_toDigits (by decide) (by decide) hc
    have hrun := LiteralReader.takeRun_append Nat.toDigits_ne_nil hdigits hrest
    rw [Lexeme.text, Nat.toList_repr, readLexeme, hrun]
    simp only [Nat.ofDigitChars_ten_toDigits]
  | comma | blank => rfl

/-- The lexemes of a text are its first one and those of the rest. -/
theorem readLexemes_of_readLexeme {cs rest : List Char} {l : Lexeme}
    (h : readLexeme cs = some (l, rest)) :
    readLexemes cs = (readLexemes rest).map (l :: ·) := by
  have hne : cs ≠ [] := List.ne_nil_of_length_pos (Nat.zero_lt_of_lt (readLexeme_length_lt h))
  rw [readLexemes, if_neg hne]
  split
  · next hread =>
    cases h.symm.trans hread
    rfl
  · next hread => cases h.symm.trans hread

theorem isProper_of_isSpaced {l : Lexeme} {ls : List Lexeme} (h : isSpaced (l :: ls) = true) :
    l.isProper = true := by
  cases ls with
  | nil => exact h
  | cons next ls => exact (Bool.and_eq_true_iff.mp (Bool.and_eq_true_iff.mp h).1).1

/-- The first of some spaced lexemes is not continued by the others, which are spaced as well. -/
theorem rest_of_isSpaced {l : Lexeme} {ls : List Lexeme} (h : isSpaced (l :: ls) = true) :
    (∀ c ∈ (spelled Lexeme.text ls).toList.head?, l.continues c = false) ∧ isSpaced ls = true := by
  cases ls with
  | nil =>
    refine ⟨?_, rfl⟩
    rintro c ⟨⟩
  | cons next ls =>
    obtain ⟨hfirst, hls⟩ := Bool.and_eq_true_iff.mp h
    have hmark := (Bool.and_eq_true_iff.mp hfirst).2
    have hnext := Lexeme.text_ne_empty (isProper_of_isSpaced hls)
    rw [spelled_cons, String.toList_append, List.head?_append_of_ne_nil _ hnext]
    exact ⟨Lexeme.continues_of_isMark hmark, hls⟩

/-- Lexemes with a mark between any two runs are read back from their text. -/
theorem readLexemes_spelled {ls : List Lexeme} (h : isSpaced ls = true) :
    readLexemes (spelled Lexeme.text ls).toList = some ls := by
  induction ls with
  | nil =>
    rw [spelled_nil, readLexemes]
    rfl
  | cons l ls ih =>
    obtain ⟨hrest, hls⟩ := rest_of_isSpaced h
    have hread := readLexeme_text (isProper_of_isSpaced h) hrest
    rw [spelled_cons, String.toList_append, readLexemes_of_readLexeme hread, ih hls]
    rfl

/-! ## Clauses -/

/-- Lexemes with a blank in front of each of them. -/
def blanked (ls : List Lexeme) : List Lexeme := ls.flatMap fun l => [.blank, l]

/-- The lexemes of a clause that skips rows and fetches the next or first ones. -/
def fetchLexemes (which : String) (limit offset : Nat) : List Lexeme :=
  blanked [.word "OFFSET", .number offset, .word "ROWS", .word "FETCH", .word which,
    .number limit, .word "ROWS", .word "ONLY"]

/-- The lexemes of the clause of a limit. -/
def clauseLexemes (d : Dialect) (limit offset : Nat) (ordered : Bool) : List Lexeme :=
  match d with
  | .mysqli | .mysqlPdo =>
      if offset = 0 then blanked [.word "LIMIT", .number limit]
      else blanked [.word "LIMIT", .number offset] ++ [.comma, .number limit]
  | .postgresql | .sqlite =>
      if offset = 0 then blanked [.word "LIMIT", .number limit]
      else blanked [.word "LIMIT", .number limit, .word "OFFSET", .number offset]
  | .oracle => fetchLexemes "NEXT" limit offset
  | .sqlServer =>
      (if ordered then [] else blanked [.word "ORDER", .word "BY", .number 1]) ++
        fetchLexemes "NEXT" limit offset
  | .db2 =>
      if offset = 0 then
        blanked [.word "FETCH", .word "FIRST", .number limit, .word "ROWS", .word "ONLY"]
      else fetchLexemes "FIRST" limit offset

section

variable (d : Dialect) (limit offset : Nat) (ordered : Bool)

/-- No two words or numbers of a clause stand side by side. -/
theorem isSpaced_clauseLexemes : isSpaced (clauseLexemes d limit offset ordered) = true := by
  cases d with
  | oracle => rfl
  | sqlServer =>
    cases ordered with
    | false => rfl
    | true => rfl
  | _ =>
    unfold clauseLexemes
    dsimp only
    split
    · rfl
    · rfl

/-- The grammar of the dialect finds the two numbers of a clause in their places. -/
theorem limitOfLexemes_clauseLexemes :
    limitOfLexemes d ((clauseLexemes d limit offset ordered).filter (· ≠ .blank)) =
      some (limit, offset) := by
  cases d with
  | oracle => rfl
  | sqlServer =>
    cases ordered with
    | false => rfl
    | true => rfl
  | _ =>
    unfold clauseLexemes
    dsimp only
    split
    · next hzero =>
      rw [hzero]
      rfl
    · rfl

/-- The clause of a limit is spelled by its lexemes. -/
theorem limitClause_eq_spelled (hlimit : limit ≠ 0) :
    limitClause d limit offset ordered =
      spelled Lexeme.text (clauseLexemes d limit offset ordered) := by
  rw [← String.toList_inj]
  cases d with
  | oracle => simp [limitClause, clauseLexemes, fetchLexemes, blanked, Lexeme.text, hlimit]
  | sqlServer =>
    cases ordered with
    | false =>
      have hone : Nat.toDigits 10 1 = ['1'] := rfl
      simp [limitClause, clauseLexemes, fetchLexemes, blanked, Lexeme.text, hlimit, hone]
    | true => simp [limitClause, clauseLexemes, fetchLexemes, blanked, Lexeme.text, hlimit]
  | _ =>
    by_cases hzero : offset = 0
    · simp [limitClause, clauseLexemes, blanked, Lexeme.text, hlimit, hzero]
    · simp [limitClause, clauseLexemes, fetchLexemes, blanked, Lexeme.text, hlimit, hzero]

end

/-- The clause of a limit is read back as the limit and the offset. -/
theorem read_limitClause (d : Dialect) {limit : Nat} (hlimit : limit ≠ 0) (offset : Nat)
    (ordered : Bool) : read d (limitClause d limit offset ordered) = some (limit, offset) := by
  rw [limitClause_eq_spelled d limit offset ordered hlimit, read,
    readLexemes_spelled (isSpaced_clauseLexemes d limit offset ordered), Option.bind_some,
    limitOfLexemes_clauseLexemes]

example : read .sqlServer " ORDER BY 1 OFFSET 20 ROWS FETCH NEXT 10 ROWS ONLY" = some (10, 20) :=
  read_limitClause .sqlServer (by decide : 10 ≠ 0) 20 false

/-- Two limits with the same clause are the same, and so are their offsets. -/
theorem eq_of_limitClause_eq {d : Dialect} {limit offset limit' offset' : Nat}
    {ordered ordered' : Bool} (hlimit : limit ≠ 0) (hlimit' : limit' ≠ 0)
    (h : limitClause d limit offset ordered = limitClause d limit' offset' ordered') :
    limit = limit' ∧ offset = offset' := by
  have hread := read_limitClause d hlimit offset ordered
  rw [h, read_limitClause d hlimit' offset' ordered'] at hread
  cases hread
  exact ⟨rfl, rfl⟩

end LimitReader

/-! ## Selections -/

namespace Select

/-- The text of a selection in front of its limit. -/
def upToLimit (n : TableNaming) (s : Select) (table : String) : String :=
  s.opening n table ++ optionalClause "WHERE" s.condition ++
    clause "GROUP BY" (",".intercalate s.groupBy) ++
    clause "HAVING" (" AND ".intercalate s.having) ++
    clause "ORDER BY" (", ".intercalate s.orderBy)

/-- A limit and its offset are in the clause at the end of a selection and nowhere else. -/
theorem build_limited (d : Dialect) (n : TableNaming) (s : Select) (limit offset : Nat) :
    ({ s with limit, offset } : Select).build d n =
      s.source.map fun table =>
        s.upToLimit n table ++ limitClause d limit offset (!s.orderBy.isEmpty) := by
  have hsource : ({ s with limit, offset } : Select).source = s.source := rfl
  rw [build_eq_map, hsource]
  rfl

/-- Without a limit there is no clause, whatever the offset is. -/
theorem build_unlimited (d : Dialect) (n : TableNaming) (s : Select) (offset : Nat) :
    ({ s with limit := 0, offset } : Select).build d n = s.source.map (s.upToLimit n) := by
  have hnone : limitClause d 0 offset (!s.orderBy.isEmpty) = "" := rfl
  simp only [build_limited, hnone, String.append_empty]

end Select

namespace Query

theorem template_get_unlimited (q : Query) (offset offset' : Nat) :
    q.template .get { offset } = q.template .get { offset := offset' } := by
  have hbuild (w : Option String) :
      (q.selection { offset } w).build q.dialect (.placeholder q.style) =
        (q.selection { offset := offset' } w).build q.dialect (.placeholder q.style) :=
    (Select.build_unlimited _ _ (q.selection {} w) offset).trans
      (Select.build_unlimited _ _ (q.selection {} w) offset').symm
  simp only [template_get_eq, hbuild]

end Query

/-- A selection without a limit does not depend on the offset: a session gives the same answer for
all offsets and is the same after it. -/
theorem Session.perform_get_unlimited (s : Session) (offset offset' : Nat) :
    s.perform (.get 0 offset) = s.perform (.get 0 offset') := by
  have hsql : s.query.sql .get { offset } = s.query.sql .get { offset := offset' } := by
    rw [Query.sql_eq_map, Query.sql_eq_map, Query.template_get_unlimited _ offset offset']
  rw [Call.get, Call.get, perform_build, perform_build, hsql]

/-- **The clause of a limit determines the limit and the offset.** In each dialect the clause is
read back as the limit and the offset that it is written for, so that different pairs have different
clauses. The clause is the end of the selection, and nothing in front of it depends on the two. A
selection without a limit has no clause and is the same for all offsets. -/
theorem limits_read_back (d : Dialect) :
    (∀ limit offset ordered, limit ≠ 0 →
      LimitReader.read d (limitClause d limit offset ordered) = some (limit, offset)) ∧
    (∀ limit offset ordered limit' offset' ordered', limit ≠ 0 → limit' ≠ 0 →
      limitClause d limit offset ordered = limitClause d limit' offset' ordered' →
      limit = limit' ∧ offset = offset') ∧
    (∀ n (s : Select) limit offset,
      ({ s with limit, offset } : Select).build d n =
        s.source.map fun table =>
          s.upToLimit n table ++ limitClause d limit offset (!s.orderBy.isEmpty)) ∧
    (∀ n (s : Select) offset,
      ({ s with limit := 0, offset } : Select).build d n = s.source.map (s.upToLimit n)) ∧
    ∀ (s : Session) offset offset', s.perform (.get 0 offset) = s.perform (.get 0 offset') := by
  refine ⟨?read, ?injective, Select.build_limited d, Select.build_unlimited d,
    Session.perform_get_unlimited⟩
  case read =>
    intro limit offset ordered hlimit
    exact LimitReader.read_limitClause d hlimit offset ordered
  case injective =>
    intro limit offset ordered limit' offset' ordered' hlimit hlimit' h
    exact LimitReader.eq_of_limitClause_eq hlimit hlimit' h

/-- The two numbers are swapped in MySQL, and the greatest ones of 64 bits are read back. An offset
of zero is missing in DB2. SQL Server has an order of its own in front of the clause. -/
theorem limits_read_back_each_form :
    LimitReader.read .mysqli " LIMIT 18446744073709551615,10" =
      some (10, 18446744073709551615) ∧
    LimitReader.read .sqlite " LIMIT 18446744073709551615 OFFSET 10" =
      some (18446744073709551615, 10) ∧
    LimitReader.read .db2 " FETCH FIRST 10 ROWS ONLY" = some (10, 0) ∧
    LimitReader.read .sqlServer " ORDER BY 1 OFFSET 0 ROWS FETCH NEXT 10 ROWS ONLY" =
      some (10, 0) ∧
    limitClause .mysqli 10 1 true ≠ limitClause .mysqli 1 10 false := by
  refine ⟨?_, ?_, ?_, ?_, ?_⟩
  · exact (limits_read_back .mysqli).1 10 18446744073709551615 false (by decide)
  · exact (limits_read_back .sqlite).1 18446744073709551615 10 false (by decide)
  · exact (limits_read_back .db2).1 10 0 false (by decide)
  · exact (limits_read_back .sqlServer).1 10 0 false (by decide)
  · intro h
    have hpair := (limits_read_back .mysqli).2.1 10 1 true 1 10 false (by decide) (by decide) h
    exact absurd hpair.1 (by decide)

end DialectSql
