import DialectSql.Style
import Mathlib.Data.List.Forall2

/-!
# Reading a list of literals

A database reads the values of a row or of an `IN` list from the text: literals with single commas
between them, up to a closing parenthesis. `readText` reads what follows the opening quote of a text
literal, `readLiteral` one literal and `readList` a list. The rules for a quote inside a text are
those of the database: in MySQL a backslash starts an escape of two characters, elsewhere a quote
that is written twice stands for one.

The reader does not know how literals are written. The main statement `readList_literals` says that
it reads each literal of a list as itself and stops at the parenthesis behind the last one, whatever
the texts in the list contain and whatever follows the list.
-/

set_option autoImplicit false

namespace DialectSql.LiteralReader

open Escaper

/-- What one literal is read as. -/
inductive Token where
  /-- A keyword. -/
  | word (letters : String)
  | integer (value : Int)
  | text (value : String)
deriving DecidableEq, Repr

/-! ## Texts -/

/-- The character that a backslash and the given one stand for, if they are an escape. -/
def unescape : Char → Option Char
  | '0' => some '\x00'
  | 'b' => some '\x08'
  | 'n' => some '\n'
  | 'r' => some '\r'
  | 't' => some '\t'
  | 'Z' => some '\x1a'
  | '\'' => some '\''
  | '"' => some '"'
  | '\\' => some '\\'
  | _ => none

/-- The text after an opening quote and what follows its closing quote, where a backslash starts an
escape of two characters and a bare quote closes the text. -/
def readBackslashed : List Char → Option (List Char × List Char)
  | [] => none
  | '\'' :: rest => some ([], rest)
  | '\\' :: c :: cs =>
      match unescape c with
      | some x => (readBackslashed cs).map (Prod.map (x :: ·) id)
      | none => none
  | c :: cs => (readBackslashed cs).map (Prod.map (c :: ·) id)

/-- The text after an opening quote and what follows its closing quote, where two quotes stand for
one and a single quote closes the text. -/
def readDoubled : List Char → Option (List Char × List Char)
  | [] => none
  | '\'' :: '\'' :: cs => (readDoubled cs).map (Prod.map ('\'' :: ·) id)
  | '\'' :: rest => some ([], rest)
  | c :: cs => (readDoubled cs).map (Prod.map (c :: ·) id)

/-- The text after an opening quote by the rules of a dialect. -/
def readText (d : Dialect) (cs : List Char) : Option (List Char × List Char) :=
  if d.isMySQL then readBackslashed cs else readDoubled cs

/-- A character is escaped by a backslash sequence that stands for it, or it is neither a quote nor
a backslash and is left alone. -/
theorem backslashed_cases (c : Char) :
    (∃ e, backslashed c = ['\\', e] ∧ unescape e = some c) ∨
      (backslashed c = [c] ∧ c ≠ '\'' ∧ c ≠ '\\') := by
  unfold backslashed
  split
  case h_10 => exact Or.inr ⟨rfl, by assumption, by assumption⟩
  all_goals exact Or.inl ⟨_, rfl, rfl⟩

/-- What stands for a character is read as this character, by the rule with backslashes. -/
theorem readBackslashed_backslashed (c : Char) (cs : List Char) :
    readBackslashed (backslashed c ++ cs) = (readBackslashed cs).map (Prod.map (c :: ·) id) := by
  rcases backslashed_cases c with ⟨e, he, hc⟩ | ⟨he, hquote, hbackslash⟩
  · rw [he]
    show readBackslashed ('\\' :: e :: cs) = _
    rw [readBackslashed, hc]
  · rw [he]
    show readBackslashed (c :: cs) = _
    rw [readBackslashed]
    · exact hquote
    · intro e r h
      exact absurd h hbackslash

theorem readDoubled_doubled (c : Char) (cs : List Char) :
    readDoubled (doubled c ++ cs) = (readDoubled cs).map (Prod.map (c :: ·) id) := by
  by_cases hc : c = '\''
  · subst hc
    show readDoubled ('\'' :: '\'' :: cs) = _
    rw [readDoubled]
  · rw [doubled, if_neg hc]
    show readDoubled (c :: cs) = _
    rw [readDoubled]
    · intro r h
      exact absurd h hc
    · exact hc

/-- What stands for a character is read as the character. -/
theorem readText_standardChar (d : Dialect) (c : Char) (cs : List Char) :
    readText d (standardChar d c ++ cs) = (readText d cs).map (Prod.map (c :: ·) id) := by
  cases h : d.isMySQL with
  | true => simpa [readText, standardChar, h] using readBackslashed_backslashed c cs
  | false => simpa [readText, standardChar, h] using readDoubled_doubled c cs

/-- A quote that no other quote follows closes a text. -/
theorem readText_quote (d : Dialect) {rest : List Char} (hrest : rest.head? ≠ some '\'') :
    readText d ('\'' :: rest) = some ([], rest) := by
  cases h : d.isMySQL with
  | true => simp [readText, h, readBackslashed]
  | false =>
    simp only [readText, h, Bool.false_eq_true, if_false]
    rw [readDoubled]
    intro cs hcs
    simp [hcs] at hrest

/-- An escaped text is read as the text itself, up to the quote that closes it. -/
theorem readText_escaped (d : Dialect) (cs : List Char) {rest : List Char}
    (hrest : rest.head? ≠ some '\'') :
    readText d (cs.flatMap (standardChar d) ++ '\'' :: rest) = some (cs, rest) := by
  -- By induction on the text itself: what stands for its first character is read in one step,
  -- although it may be two characters long.
  induction cs with
  | nil => exact readText_quote d hrest
  | cons c cs ih =>
    rw [List.flatMap_cons, List.append_assoc, readText_standardChar, ih]
    rfl

example : readText .sqlite "it''s', 1)".toList = some ("it's".toList, ", 1)".toList) := by decide

example : readText .mysqli "it\\'s', 1)".toList = some ("it's".toList, ", 1)".toList) := by decide

theorem length_lt_of_map_prepend {r : Option (List Char × List Char)} {x : Char}
    {text rest : List Char} {n : Nat} (h : r.map (Prod.map (x :: ·) id) = some (text, rest))
    (ih : ∀ {text}, r = some (text, rest) → rest.length < n) : rest.length < n := by
  obtain ⟨⟨text', rest'⟩, hr, hmap⟩ := Option.map_eq_some_iff.mp h
  cases hmap
  exact ih hr

theorem readBackslashed_length_lt {cs text rest : List Char}
    (h : readBackslashed cs = some (text, rest)) : rest.length < cs.length := by
  fun_induction readBackslashed cs generalizing text with
  | case1 => cases h
  | case2 r => cases h; simp
  | case3 c cs x hx ih => exact Nat.lt_add_right 2 (length_lt_of_map_prepend h ih)
  | case4 => cases h
  | case5 c cs _ _ ih => exact Nat.lt_succ_of_lt (length_lt_of_map_prepend h ih)

theorem readDoubled_length_lt {cs text rest : List Char}
    (h : readDoubled cs = some (text, rest)) : rest.length < cs.length := by
  fun_induction readDoubled cs generalizing text with
  | case1 => cases h
  | case2 cs ih => exact Nat.lt_add_right 2 (length_lt_of_map_prepend h ih)
  | case3 => cases h; simp
  | case4 c cs _ _ ih => exact Nat.lt_succ_of_lt (length_lt_of_map_prepend h ih)

/-- Whatever the dialect, a text is read at least up to its closing quote. -/
theorem readText_length_lt {d : Dialect} {cs text rest : List Char}
    (h : readText d cs = some (text, rest)) : rest.length < cs.length := by
  rw [readText] at h
  split at h
  · exact readBackslashed_length_lt h
  · exact readDoubled_length_lt h

/-! ## Runs of letters and digits -/

/-- The longest run of characters of a kind, of which there must be one, and what follows it. -/
def takeRun (p : Char → Bool) (cs : List Char) : Option (List Char × List Char) :=
  if cs.takeWhile p = [] then none else some (cs.takeWhile p, cs.dropWhile p)

/-- A run is read up to the first character that does not belong to it. -/
theorem takeRun_append {p : Char → Bool} {run rest : List Char} (hne : run ≠ [])
    (hrun : ∀ c ∈ run, p c = true) (hrest : ∀ c ∈ rest.head?, p c = false) :
    takeRun p (run ++ rest) = some (run, rest) := by
  have htake : (run ++ rest).takeWhile p = run := by
    rw [List.takeWhile_append_of_pos hrun]
    cases rest with
    | nil => simp
    | cons c cs => simp [hrest c rfl]
  have hdrop : (run ++ rest).dropWhile p = rest := by
    rw [List.dropWhile_append_of_pos hrun]
    cases rest with
    | nil => rfl
    | cons c cs => simp [hrest c rfl]
  rw [takeRun, htake, hdrop, if_neg hne]

theorem takeRun_eq_none {p : Char → Bool} {c : Char} (cs : List Char) (hc : p c = false) :
    takeRun p (c :: cs) = none := by
  simp [takeRun, hc]

theorem takeRun_length_lt {p : Char → Bool} {cs run rest : List Char}
    (h : takeRun p cs = some (run, rest)) : rest.length < cs.length := by
  rw [takeRun] at h
  split at h
  · cases h
  · next hne =>
    cases h
    have hlen : (cs.takeWhile p).length + (cs.dropWhile p).length = cs.length := by
      rw [← List.length_append, List.takeWhile_append_dropWhile]
    have hpos := List.length_pos_iff.mpr hne
    omega

/-- Letters lie behind `A`, and digits before it. -/
theorem isDigit_eq_false_of_isAlpha {c : Char} (h : c.isAlpha = true) : c.isDigit = false := by
  have hletter : 'A'.toNat ≤ c.toNat := by
    rcases Bool.or_eq_true_iff.mp h with hupper | hlower
    · exact UInt32.le_iff_toNat_le.mp (of_decide_eq_true hupper).1
    · have hbound := of_decide_eq_true (Bool.and_eq_true_iff.mp hlower).1
      exact Nat.le_trans (by decide) (UInt32.le_iff_toNat_le.mp hbound)
  rw [Bool.eq_false_iff, ne_eq, Char.isDigit_iff_toNat]
  intro hdigit
  exact absurd (Nat.le_trans hletter hdigit.2) (by decide)

/-! ## One literal -/

/-- One literal and what follows it: a text between quotes, a decimal integer with or without a
sign, or a keyword. -/
def readLiteral (d : Dialect) : List Char → Option (Token × List Char)
  | '\'' :: cs => (readText d cs).map fun (text, rest) => (.text (String.ofList text), rest)
  | '-' :: cs =>
      (takeRun Char.isDigit cs).map fun (digits, rest) =>
        (.integer (-(Nat.ofDigitChars 10 digits 0 : Int)), rest)
  | cs =>
      match takeRun Char.isDigit cs with
      | some (digits, rest) => some (.integer (Nat.ofDigitChars 10 digits 0), rest)
      | none =>
          (takeRun Char.isAlpha cs).map fun (letters, rest) =>
            (.word (String.ofList letters), rest)

/-- Whatever is read takes at least one character of the text. -/
def Consumes {α : Type} (item : List Char → Option (α × List Char)) : Prop :=
  ∀ cs rest t, item cs = some (t, rest) → rest.length < cs.length

/-- Every literal has at least one character. -/
theorem consumes_readLiteral (d : Dialect) : Consumes (readLiteral d) := by
  intro cs rest t h
  unfold readLiteral at h
  split at h
  · next cs =>
    obtain ⟨⟨text, r⟩, hr, hmap⟩ := Option.map_eq_some_iff.mp h
    cases hmap
    exact Nat.lt_succ_of_lt (readText_length_lt hr)
  · next cs =>
    obtain ⟨⟨digits, r⟩, hr, hmap⟩ := Option.map_eq_some_iff.mp h
    cases hmap
    exact Nat.lt_succ_of_lt (takeRun_length_lt hr)
  · split at h
    · next hr =>
      cases h
      exact takeRun_length_lt hr
    · obtain ⟨⟨letters, r⟩, hr, hmap⟩ := Option.map_eq_some_iff.mp h
      cases hmap
      exact takeRun_length_lt hr

/-- A comma or a closing parenthesis comes next. -/
def AtSeparator (rest : List Char) : Prop :=
  ∃ cs, rest = ',' :: cs ∨ rest = ')' :: cs

/-- A separator continues no run of characters of a kind that has no separator. -/
theorem AtSeparator.head_eq_false {rest : List Char} (h : AtSeparator rest) {p : Char → Bool}
    (hcomma : p ',' = false) (hparenthesis : p ')' = false) :
    ∀ c ∈ rest.head?, p c = false := by
  obtain ⟨cs, rfl | rfl⟩ := h
  · rintro c ⟨⟩
    exact hcomma
  · rintro c ⟨⟩
    exact hparenthesis

/-- A separator is no quote, so it does not go on with a text. -/
theorem AtSeparator.head?_ne_quote {rest : List Char} (h : AtSeparator rest) :
    rest.head? ≠ some '\'' := by
  obtain ⟨cs, rfl | rfl⟩ := h
  · simp
  · simp

/-- A quoted text is read back as the text. -/
theorem readLiteral_quote (d : Dialect) (s : String) {rest : List Char}
    (hrest : AtSeparator rest) :
    readLiteral d (((Style.standard d).quote s).toList ++ rest) = some (.text s, rest) := by
  have hchars : ((Style.standard d).quote s).toList ++ rest =
      '\'' :: (s.toList.flatMap (standardChar d) ++ '\'' :: rest) := by
    simp [Style.quote, Style.standard, standard, String.toList_append]
  rw [hchars, readLiteral, readText_escaped d s.toList hrest.head?_ne_quote]
  simp

/-- A word is read as a word: it starts with a letter, so neither the rule for texts nor the ones
for integers applies. -/
theorem readLiteral_word (d : Dialect) {word : String} {rest : List Char} (hne : word ≠ "")
    (hletters : word.toList.all Char.isAlpha = true) (hrest : AtSeparator rest) :
    readLiteral d (word.toList ++ rest) = some (.word word, rest) := by
  have hrun := takeRun_append (by simpa using hne) (List.all_eq_true.mp hletters)
    (hrest.head_eq_false rfl rfl)
  obtain ⟨c, cs, hcs⟩ := List.exists_cons_of_ne_nil (l := word.toList) (by simpa using hne)
  have hc : c.isAlpha = true := List.all_eq_true.mp hletters c (by simp [hcs])
  rw [readLiteral, hrun, hcs, List.cons_append,
    takeRun_eq_none _ (isDigit_eq_false_of_isAlpha hc), ← hcs]
  · simp
  · rintro r h
    rw [hcs] at h
    cases h
    cases hc
  · rintro r h
    rw [hcs] at h
    cases h
    cases hc

/-- The digits of a number are a run that ends at the separator. -/
theorem takeRun_toDigits (n : Nat) {rest : List Char} (hrest : AtSeparator rest) :
    takeRun Char.isDigit (Nat.toDigits 10 n ++ rest) = some (Nat.toDigits 10 n, rest) :=
  takeRun_append Nat.toDigits_ne_nil
    (fun _ hc => Nat.isDigit_of_mem_toDigits (by decide) (by decide) hc)
    (hrest.head_eq_false rfl rfl)

/-- The digits of a number are read back as the number. -/
theorem readLiteral_toDigits (d : Dialect) (n : Nat) {rest : List Char}
    (hrest : AtSeparator rest) :
    readLiteral d (Nat.toDigits 10 n ++ rest) = some (.integer n, rest) := by
  have hhead : ∀ c r, Nat.toDigits 10 n ++ rest = c :: r → c.isDigit = true := by
    intro c r h
    obtain ⟨c', cs, hcs⟩ := List.exists_cons_of_ne_nil (Nat.toDigits_ne_nil (n := n) (b := 10))
    rw [hcs] at h
    cases h
    exact Nat.isDigit_of_mem_toDigits (b := 10) (n := n) (by decide) (by decide) (by simp [hcs])
  rw [readLiteral, takeRun_toDigits n hrest]
  · simp
  · intro r h
    cases hhead _ _ h
  · intro r h
    cases hhead _ _ h

theorem readLiteral_repr (d : Dialect) (n : Int) {rest : List Char} (hrest : AtSeparator rest) :
    readLiteral d (n.repr.toList ++ rest) = some (.integer n, rest) := by
  rw [Int.repr_eq_if]
  split
  · next hn =>
    rw [Nat.toList_repr, readLiteral_toDigits d _ hrest, Int.toNat_of_nonneg hn]
  · next hn =>
    have hchars : ("-" ++ (-n).toNat.repr).toList ++ rest =
        '-' :: (Nat.toDigits 10 (-n).toNat ++ rest) := by
      simp [String.toList_append]
    rw [hchars, readLiteral, takeRun_toDigits _ hrest]
    simp only [Option.map_some, Nat.ofDigitChars_ten_toDigits, Option.some.injEq, Prod.mk.injEq,
      Token.integer.injEq, and_true]
    omega

/-! ## Lists -/

section

variable {α : Type} {item : List Char → Option (α × List Char)}

/-- The items of a list that has been opened, with single commas between them, and what follows the
parenthesis that closes it. -/
def readItems (item : List Char → Option (α × List Char)) (hitem : Consumes item)
    (cs : List Char) : Option (List α × List Char) :=
  match _h : item cs with
  | some (t, ',' :: rest) => (readItems item hitem rest).map (Prod.map (t :: ·) id)
  | some (t, ')' :: rest) => some ([t], rest)
  | _ => none
termination_by cs.length
decreasing_by
  have := hitem _ _ _ _h
  simp only [List.length_cons] at this
  omega

variable (hitem : Consumes item)

/-- A comma goes on with the list. -/
theorem readItems_of_comma {cs rest : List Char} {t : α} (h : item cs = some (t, ',' :: rest)) :
    readItems item hitem cs = (readItems item hitem rest).map (Prod.map (t :: ·) id) := by
  rw [readItems]
  split
  · next h' =>
    rw [h] at h'
    cases h'
    rfl
  · next h' =>
    rw [h] at h'
    cases h'
  · next hcomma _ => exact absurd h (hcomma t rest)

/-- A closing parenthesis ends the list. -/
theorem readItems_of_parenthesis {cs rest : List Char} {t : α}
    (h : item cs = some (t, ')' :: rest)) : readItems item hitem cs = some ([t], rest) := by
  rw [readItems]
  split
  · next h' =>
    rw [h] at h'
    cases h'
  · next h' =>
    rw [h] at h'
    cases h'
    rfl
  · next _ hparenthesis => exact absurd h (hparenthesis t rest)

/-- A list takes at least one character of the text, since its first item does. -/
theorem readItems_length_lt {cs rest : List Char} {ts : List α}
    (h : readItems item hitem cs = some (ts, rest)) : rest.length < cs.length := by
  fun_induction readItems item hitem cs generalizing ts with
  | case1 cs t further hfirst ih =>
    obtain ⟨⟨ts', r⟩, hr, hmap⟩ := Option.map_eq_some_iff.mp h
    cases hmap
    have hlength := hitem _ _ _ hfirst
    rw [List.length_cons] at hlength
    have := ih hr
    omega
  | case2 cs t further hfirst =>
    cases h
    have hlength := hitem _ _ _ hfirst
    rw [List.length_cons] at hlength
    omega
  | case3 => cases h

/-- The text is read as the item wherever a separator follows it. -/
def ReadsAs (item : List Char → Option (α × List Char)) (text : String) (t : α) : Prop :=
  ∀ rest, AtSeparator rest → item (text.toList ++ rest) = some (t, rest)

/-- Texts that are read one by one are read together from the list that they make: the last one up
to the parenthesis and every other one up to its comma. -/
theorem readItems_intercalate {texts : List String} {ts : List α}
    (h : List.Forall₂ (ReadsAs item) texts ts) (hne : texts ≠ []) (rest : List Char) :
    readItems item hitem ((",".intercalate texts).toList ++ ')' :: rest) = some (ts, rest) := by
  induction h with
  | nil => exact absurd rfl hne
  | @cons text t texts ts ht htexts ih =>
    cases texts with
    | nil =>
      cases htexts
      rw [String.intercalate_singleton]
      exact readItems_of_parenthesis hitem (ht _ ⟨rest, Or.inr rfl⟩)
    | cons text' texts' =>
      have hchars : (",".intercalate (text :: text' :: texts')).toList ++ ')' :: rest =
          text.toList ++
            ',' :: ((",".intercalate (text' :: texts')).toList ++ ')' :: rest) := by
        simp [String.intercalate_cons_cons, String.toList_append]
      rw [hchars, readItems_of_comma hitem (ht _ ⟨_, Or.inl rfl⟩), ih (List.cons_ne_nil _ _)]
      rfl

end

/-- The literals of a list that has been opened, and what follows the parenthesis that closes it. -/
def readList (d : Dialect) : List Char → Option (List Token × List Char) :=
  readItems (readLiteral d) (consumes_readLiteral d)

/-! ## Literals of a statement -/

/-- A truth value: a keyword, or an integer where the database has no such type. -/
def truth : Dialect → Bool → Token
  | .oracle, b | .sqlServer, b | .sqlite, b => .integer (if b then 1 else 0)
  | _, b => .word (if b then "TRUE" else "FALSE")

/-- What a literal has to be read as. Floating-point numbers and date-times are not among the
literals that are read here. -/
def meaning? (d : Dialect) : Literal → Option Token
  | .null => some (.word "NULL")
  | .bool b => some (truth d b)
  | .int n => some (.integer n.toInt)
  | .uint n => some (.integer n.toNat)
  | .text s => some (.text s)
  | .float _ | .dateTime _ => none

/-- The null value, a truth value, an integer or a text. -/
def isPlain : Literal → Bool
  | .float _ | .dateTime _ => false
  | _ => true

/-- The truth values are words in some dialects and digits in the others. -/
theorem readsAs_boolWord (d : Dialect) (b : Bool) :
    ReadsAs (readLiteral d) (d.boolWord b) (truth d b) := by
  intro rest hrest
  cases d <;> cases b <;>
    first
      | exact readLiteral_word _ (by decide) (by decide) hrest
      | exact readLiteral_toDigits _ 0 hrest
      | exact readLiteral_toDigits _ 1 hrest

/-- Every plain literal is written, and what is written is read as the literal. -/
theorem exists_readsAs (d : Dialect) {v : Literal} (hv : isPlain v = true) :
    ∃ text t, (Style.standard d).literal v = .ok text ∧ meaning? d v = some t ∧
      ReadsAs (readLiteral d) text t := by
  cases v with
  | null =>
    exact ⟨"NULL", .word "NULL", rfl, rfl,
      fun rest hrest => readLiteral_word d (by decide) (by decide) hrest⟩
  | bool b => exact ⟨_, _, rfl, rfl, readsAs_boolWord d b⟩
  | int n => exact ⟨_, _, rfl, rfl, fun rest hrest => readLiteral_repr d n.toInt hrest⟩
  | uint n =>
    refine ⟨_, _, rfl, rfl, fun rest hrest => ?_⟩
    rw [Nat.toList_repr]
    exact readLiteral_toDigits d n.toNat hrest
  | float x => exact absurd hv Bool.false_ne_true
  | text s => exact ⟨_, _, rfl, rfl, fun rest hrest => readLiteral_quote d s hrest⟩
  | dateTime t => exact absurd hv Bool.false_ne_true

/-- A list of plain literals is written item by item, each of which is read back. -/
theorem exists_forall₂_readsAs (d : Dialect) {vs : List Literal}
    (hvs : ∀ v ∈ vs, isPlain v = true) :
    ∃ texts tokens, (Style.standard d).literals vs = .ok texts ∧
      tokens.map some = vs.map (meaning? d) ∧
      List.Forall₂ (ReadsAs (readLiteral d)) texts tokens := by
  induction vs with
  | nil => exact ⟨[], [], rfl, rfl, .nil⟩
  | cons v vs ih =>
    obtain ⟨text, t, htext, ht, hread⟩ := exists_readsAs d (hvs v List.mem_cons_self)
    obtain ⟨texts, tokens, htexts, htokens, hreads⟩ :=
      ih fun v hv => hvs v (List.mem_cons_of_mem _ hv)
    refine ⟨text :: texts, t :: tokens, ?_, ?_, .cons hread hreads⟩
    · simp only [Style.literals] at htexts ⊢
      rw [List.mapM_cons, htext, htexts]
      rfl
    · rw [List.map_cons, List.map_cons, htokens, ht]

/-- **No literal breaks out of its place in a list.** Plain literals are written by the standard
style of any dialect, and the list of what is written is read as exactly these literals, each as its
own keyword, integer or text, with the text behind the closing parenthesis left over. -/
theorem readList_literals (d : Dialect) (vs : List Literal) (hne : vs ≠ [])
    (hvs : ∀ v ∈ vs, isPlain v = true) (rest : String) :
    ∃ texts tokens, (Style.standard d).literals vs = .ok texts ∧
      readList d (",".intercalate texts ++ ")" ++ rest).toList = some (tokens, rest.toList) ∧
      tokens.length = vs.length ∧ tokens.map some = vs.map (meaning? d) := by
  obtain ⟨texts, tokens, htexts, htokens, hreads⟩ := exists_forall₂_readsAs d hvs
  have hlength : tokens.length = vs.length := by
    simpa using congrArg List.length htokens
  have hne' : texts ≠ [] := by
    rintro rfl
    cases hreads
    exact hne (List.length_eq_zero_iff.mp hlength.symm)
  refine ⟨texts, tokens, htexts, ?_, hlength, htokens⟩
  have hchars : (",".intercalate texts ++ ")" ++ rest).toList =
      (",".intercalate texts).toList ++ ')' :: rest.toList := by
    simp [String.toList_append]
  rw [hchars]
  exact readItems_intercalate (consumes_readLiteral d) hreads hne' rest.toList

/-- Texts that end in the characters with which a text could try to close its literal. -/
theorem readList_literals_of_hostile_texts :
    let vs := [.text "',('", .int (-7), .text "\\", .bool true, .text "') --\x00\n"]
    vs ≠ [] ∧ (∀ v ∈ vs, isPlain v = true) ∧
      ∃ texts tokens, (Style.standard .mysqli).literals vs = .ok texts ∧
        readList .mysqli (",".intercalate texts ++ ")" ++ "', 1)").toList =
          some (tokens, "', 1)".toList) ∧
        tokens.length = vs.length ∧ tokens.map some = vs.map (meaning? .mysqli) :=
  ⟨by decide, by decide, readList_literals .mysqli _ (by decide) (by decide) "', 1)"⟩

end DialectSql.LiteralReader
