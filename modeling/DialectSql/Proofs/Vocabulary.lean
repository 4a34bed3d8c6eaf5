import DialectSql.Join
import DialectSql.Proofs.Text.Words
import DialectSql.Reading
import Mathlib.Logic.Relation

/-!
# Spellings of a name

A name that is given as text may be spelled in many ways: with blanks around it and its letters in
either case (`Respelled`), and where a name has several words, with any blanks between them
(`Rephrased`, which takes any number of steps). A vocabulary gives all spellings of a text the same
meaning, or none to all of them, since it looks up what no step changes (`upper_trim_of_respelled`,
`upper_singleSpaced_of_rephrased`).

Comparisons stand in two vocabularies, one of signs and one of phrases, and only the second has
entries with letters or spaces. The texts of a comparison are the same in both
(`Comparison.parse_eq_ok_iff`, `Operator.parse_eq_ok_compare_iff`).

The main statement `spellings_agree` collects this for the parser of each vocabulary.
-/

set_option autoImplicit false

namespace DialectSql

open Text

/-! ## Variants of a text -/

/-- The second character is the first one or, if that is an ASCII letter, has its other case. -/
def CaseVariant (c d : Char) : Prop := d = c ∨ d = c.toUpper ∨ d = c.toLower

/-- Letters have changed their case, and there are more blanks at the two ends. -/
inductive Respelled : String → String → Prop where
  | intro {s : String} (l recased r : String) (hl : Blank l)
      (hcase : List.Forall₂ CaseVariant s.toList recased.toList) (hr : Blank r) :
      Respelled s (l ++ recased ++ r)

/-- One run of blanks stands in the place of another. -/
inductive Respaced : String → String → Prop where
  | intro (before gap gap' behind : String) (hgap : Blank gap) (hne : gap ≠ "")
      (hgap' : Blank gap') (hne' : gap' ≠ "") :
      Respaced (before ++ gap ++ behind) (before ++ gap' ++ behind)

/-- A text becomes another one by changes of case, blanks at its ends and runs of blanks in the
place of others, any number of times. -/
def Rephrased : String → String → Prop :=
  Relation.ReflTransGen fun s t => Respelled s t ∨ Respaced s t

/-- Variants of a character have one capital. -/
theorem CaseVariant.toUpper_eq {c d : Char} (h : CaseVariant c d) : c.toUpper = d.toUpper := by
  rcases h with rfl | rfl | rfl
  · rfl
  · exact (toUpper_toUpper c).symm
  · exact (toUpper_toLower c).symm

section

variable {s t : String}

/-- Variants of a text in upper and lower case have one text in capitals. -/
theorem upper_eq_of_caseVariant (h : List.Forall₂ CaseVariant s.toList t.toList) :
    upper s = upper t := by
  rw [← String.toList_inj, toList_upper, toList_upper, ← List.forall₂_eq_eq_eq,
    List.forall₂_map_left_iff, List.forall₂_map_right_iff]
  exact h.imp fun _ _ => CaseVariant.toUpper_eq

/-- Neither the case nor the blanks around a text count once it is trimmed and in capitals. -/
theorem upper_trim_of_respelled (h : Respelled s t) : upper (trim t) = upper (trim s) := by
  obtain ⟨l, recased, r, hl, hcase, hr⟩ := h
  rw [trim_blank_append_append hl hr, ← trim_upper, ← trim_upper, upper_eq_of_caseVariant hcase]

/-- The same holds if runs of blanks are taken for one space. -/
theorem upper_singleSpaced_of_respelled (h : Respelled s t) :
    upper (singleSpaced t) = upper (singleSpaced s) := by
  obtain ⟨l, recased, r, hl, hcase, hr⟩ := h
  rw [singleSpaced, words_blank_append_append hl hr, ← singleSpaced, ← singleSpaced_upper,
    ← singleSpaced_upper, upper_eq_of_caseVariant hcase]

/-- With runs of blanks taken for one space, their length does not count. -/
theorem singleSpaced_of_respaced (h : Respaced s t) : singleSpaced t = singleSpaced s := by
  obtain ⟨before, gap, gap', behind, hgap, hne, hgap', hne'⟩ := h
  rw [singleSpaced, singleSpaced, words_append_gap_append hgap hne,
    words_append_gap_append hgap' hne']

/-- No step changes the words of a text in upper case, so a sequence of steps does not. -/
theorem upper_singleSpaced_of_rephrased (h : Rephrased s t) :
    upper (singleSpaced t) = upper (singleSpaced s) := by
  induction h with
  | refl => rfl
  | tail _ hstep ih =>
    rw [← ih]
    rcases hstep with hrespelled | hrespaced
    · exact upper_singleSpaced_of_respelled hrespelled
    · rw [singleSpaced_of_respaced hrespaced]

end

/-! ## Reading variants alike -/

/-- A look-up that is refused where nothing is found gives what is found. -/
theorem elim_eq_ok_iff {α : Type} {found : Option α} {e : Error} {x : α} :
    found.elim (.error e) .ok = Except.ok x ↔ found = some x := by
  cases found with
  | none => simp
  | some y => simp

/-- A parser reads the canonical text of each of its results, and what it makes of a text it makes
of all variants of that text: a refusal differs in the text that it shows and nothing else. -/
structure ReadsAlike {α : Type} (variant : String → String → Prop)
    (parse : String → Except Error α) (canonical : α → String) (refusal : String → Error) :
    Prop where
  canonical (x : α) : parse (canonical x) = .ok x
  accepted {s t : String} {x : α} (h : variant s t) (hs : parse s = .ok x) : parse t = .ok x
  refused {s t : String} {e : Error} (h : variant s t) (hs : parse s = .error e) :
    parse t = .error (refusal t)

section

variable {α : Type} {parse : String → Except Error α} {canonical : α → String}
  {refusal : String → Error} (v : Vocabulary α)

/-- A parser that looks up a key reads alike all texts with the same key. -/
theorem ReadsAlike.of_lookup {variant : String → String → Prop} {key : String → String}
    (hparse : ∀ s, parse s = (v.lookup (key s)).elim (.error (refusal s)) .ok)
    (hcanonical : ∀ x, parse (canonical x) = .ok x)
    (hkey : ∀ {s t}, variant s t → key t = key s) :
    ReadsAlike variant parse canonical refusal where
  canonical := hcanonical
  accepted {s t x} h hs := by
    rw [hparse, elim_eq_ok_iff] at hs
    rw [hparse, hkey h, elim_eq_ok_iff, hs]
  refused {s t e} h hs := by
    rw [hparse] at hs ⊢
    rw [hkey h]
    cases hlookup : v.lookup (key s) with
    | none => rfl
    | some y =>
      rw [hlookup] at hs
      cases hs

/-- A vocabulary of words reads a text and its respellings alike. -/
theorem ReadsAlike.of_ofWord?
    (hparse : ∀ s, parse s = (v.ofWord? s).elim (.error (refusal s)) .ok)
    (hcanonical : ∀ x, parse (canonical x) = .ok x) :
    ReadsAlike Respelled parse canonical refusal :=
  .of_lookup v hparse hcanonical upper_trim_of_respelled

/-- So does a vocabulary of signs if case is of no account in it. -/
theorem ReadsAlike.of_ofSign? (hcase : ∀ key, v.lookup (upper key) = v.lookup key)
    (hparse : ∀ s, parse s = (v.ofSign? s).elim (.error (refusal s)) .ok)
    (hcanonical : ∀ x, parse (canonical x) = .ok x) :
    ReadsAlike Respelled parse canonical refusal := by
  have hparse' (s : String) :
      parse s = (v.lookup (upper (trim s))).elim (.error (refusal s)) .ok := by
    rw [hcase]
    exact hparse s
  exact .of_lookup v hparse' hcanonical upper_trim_of_respelled

/-- A vocabulary of phrases also reads texts with other blanks between their words alike. -/
theorem ReadsAlike.of_ofPhrase?
    (hparse : ∀ s, parse s = (v.ofPhrase? s).elim (.error (refusal s)) .ok)
    (hcanonical : ∀ x, parse (canonical x) = .ok x) :
    ReadsAlike Rephrased parse canonical refusal :=
  .of_lookup v hparse hcanonical upper_singleSpaced_of_rephrased

end

/-! ## Parsers as look-ups -/

/-- The parser of dialects is a look-up. -/
theorem Dialect.parse_eq_elim (s : String) :
    parse s = (ofText? s).elim (.error (.unsupportedDialect s)) .ok := by
  unfold parse
  cases ofText? s <;> rfl

theorem Operation.parse_eq_elim (s : String) :
    parse s = (ofText? s).elim (.error (.unsupportedOperation s)) .ok := by
  unfold parse
  cases ofText? s <;> rfl

theorem Connective.parse_eq_elim (s : String) :
    parse s = (ofText? s).elim (.error (.invalidCondition (.unknownConnective s))) .ok := by
  unfold parse
  cases ofText? s <;> rfl

theorem Comparison.parse_eq_elim (s : String) :
    parse s = (ofText? s).elim (.error (.invalidCondition (.unknownJoinOperator s))) .ok := by
  unfold parse
  cases ofText? s <;> rfl

theorem ColumnType.parse_eq_elim (s : String) :
    parse s = (ofText? s).elim (.error (.invalidColumn (.unknownType s))) .ok := by
  unfold parse
  cases ofText? s <;> rfl

theorem Operator.parse_eq_elim (s : String) :
    parse s = (ofText? s).elim (.error (.invalidCondition (.unknownOperator s))) .ok := by
  unfold parse
  cases ofText? s <;> rfl

theorem JoinType.parse_eq_elim (s : String) :
    parse s = (ofText? s).elim (.error (.invalidClause .join (.unsupportedJoinType s))) .ok := by
  unfold parse
  cases ofText? s <;> rfl

/-! ## Comparisons -/

theorem mem_of_lookup {α : Type} {v : Vocabulary α} {key : String} {x : α}
    (h : v.lookup key = some x) : (key, x) ∈ v := by
  obtain ⟨before, behind, rfl, -⟩ := List.lookup_eq_some_iff.mp h
  exact List.mem_append_right before List.mem_cons_self

namespace Comparison

variable (c : Comparison)

theorem symbol_ne_empty : c.symbol ≠ "" := by
  cases c <;> decide

/-- The sign of a comparison has neither letters nor blanks. -/
theorem isSign_symbol : ∀ x ∈ c.symbol.toList, x.isAlpha = false ∧ isBlank x = false := by
  have hsign : c.symbol.toList.all (fun x => ! (x.isAlpha || isBlank x)) = true := by
    cases c <;> decide
  intro x hx
  simpa using List.all_eq_true.mp hsign x hx

theorem upper_eq_symbol_iff (s : String) : upper s = c.symbol ↔ s = c.symbol :=
  upper_eq_iff_of_not_isAlpha (fun x hx => (c.isSign_symbol x hx).1) s

/-- A comparison is found by its symbol only. -/
theorem lookup_eq_some_iff (key : String) : spellings.lookup key = some c ↔ key = c.symbol := by
  constructor
  · intro h
    obtain ⟨c', -, hentry⟩ := List.mem_map.mp (mem_of_lookup h)
    cases hentry
    rfl
  · rintro rfl
    cases c <;> decide

/-- Capitals make no difference to a look-up of signs. -/
theorem lookup_upper (key : String) : spellings.lookup (upper key) = spellings.lookup key := by
  apply Option.ext
  intro c
  rw [lookup_eq_some_iff, lookup_eq_some_iff, upper_eq_symbol_iff]

/-- The sign of a comparison is read from itself with blanks around it and from nothing else. -/
theorem parse_eq_ok_iff (s : String) : parse s = .ok c ↔ trim s = c.symbol := by
  rw [parse_eq_elim, elim_eq_ok_iff, ofText?, Vocabulary.ofSign?, lookup_eq_some_iff]

end Comparison

namespace Operator

/-- Among all operators too a comparison is found by its symbol only. -/
theorem lookup_eq_some_compare_iff (key : String) (c : Comparison) :
    spellings.lookup key = some (compare c) ↔ key = c.symbol := by
  constructor
  · intro h
    rcases List.mem_append.mp (mem_of_lookup h) with hkeyword | hnegated
    · obtain ⟨o, -, hentry⟩ := List.mem_map.mp hkeyword
      cases hentry
      rfl
    · simp at hnegated
  · rintro rfl
    cases c <;> decide

/-- The parser of operators reads a comparison if the text is its symbol, with single spaces. -/
theorem parse_eq_ok_compare_iff (s : String) (c : Comparison) :
    parse s = .ok (compare c) ↔ singleSpaced s = c.symbol := by
  rw [parse_eq_elim, elim_eq_ok_iff, ofText?, Vocabulary.ofPhrase?, lookup_eq_some_compare_iff,
    c.upper_eq_symbol_iff]

/-- Columns are compared with columns and with values by the same texts. -/
theorem parse_eq_ok_compare_iff_parse_eq_ok (s : String) (c : Comparison) :
    parse s = .ok (compare c) ↔ Comparison.parse s = .ok c := by
  have hsign : ∀ x ∈ c.symbol.toList, isBlank x = false := fun x hx => (c.isSign_symbol x hx).2
  rw [parse_eq_ok_compare_iff, Comparison.parse_eq_ok_iff,
    trim_eq_iff_singleSpaced_eq c.symbol_ne_empty hsign]

end Operator

/-- **Names are read whatever their spelling.** Each parser reads the canonical texts and reads all
variants of a text alike: blanks at the ends and the case of letters are of no account, and for
operators and types of joins neither are the blanks between words. Comparisons of columns are read
from their signs with blanks around them, and from the same texts as the operators of conditions
that compare; the two are written alike. -/
theorem spellings_agree :
    ReadsAlike Respelled Dialect.parse Dialect.name .unsupportedDialect ∧
    ReadsAlike Respelled Operation.parse Operation.name .unsupportedOperation ∧
    ReadsAlike Respelled Connective.parse Connective.keyword
      (fun s => .invalidCondition (.unknownConnective s)) ∧
    ReadsAlike Respelled Comparison.parse Comparison.symbol
      (fun s => .invalidCondition (.unknownJoinOperator s)) ∧
    ReadsAlike Respelled ColumnType.parse ColumnType.name
      (fun s => .invalidColumn (.unknownType s)) ∧
    ReadsAlike Rephrased Operator.parse Operator.keyword
      (fun s => .invalidCondition (.unknownOperator s)) ∧
    ReadsAlike Rephrased JoinType.parse JoinType.keyword
      (fun s => .invalidClause .join (.unsupportedJoinType s)) ∧
    ∀ s c,
      (Comparison.parse s = .ok c ↔ trim s = c.symbol) ∧
      (Comparison.parse s = .ok c ↔ Operator.parse s = .ok (.compare c)) ∧
      (Operator.compare c).keyword = c.symbol := by
  refine ⟨?dialect, ?operation, ?connective, ?comparison, ?columnType, ?operator, ?joinType,
    ?agreement⟩
  case dialect => exact .of_ofWord? Dialect.spellings Dialect.parse_eq_elim Dialect.parse_name
  case operation =>
    exact .of_ofWord? Operation.spellings Operation.parse_eq_elim Operation.parse_name
  case connective =>
    exact .of_ofWord? Connective.spellings Connective.parse_eq_elim Connective.parse_keyword
  case comparison =>
    exact .of_ofSign? Comparison.spellings Comparison.lookup_upper Comparison.parse_eq_elim
      Comparison.parse_symbol
  case columnType =>
    exact .of_ofWord? ColumnType.spellings ColumnType.parse_eq_elim ColumnType.parse_name
  case operator =>
    exact .of_ofPhrase? Operator.spellings Operator.parse_eq_elim Operator.parse_keyword
  case joinType =>
    exact .of_ofPhrase? JoinType.spellings JoinType.parse_eq_elim JoinType.parse_keyword
  case agreement =>
    intro s c
    exact ⟨c.parse_eq_ok_iff s, (Operator.parse_eq_ok_compare_iff_parse_eq_ok s c).symm, rfl⟩

/-- A negated operator with other blanks between its words and around it, in another case; a name of
a dialect that is not the canonical one; words of no join, between which there is another blank. -/
theorem spellings_agree_negated_pattern :
    Rephrased "NOT LIKE" " nOt\t\u00a0LiKe\n" ∧
    Operator.parse " nOt\t\u00a0LiKe\n" = .ok (.like true) ∧
    Dialect.parse "\u3000PgSQL " = .ok .postgresql ∧
    JoinType.parse "in\u2003NER" =
      .error (.invalidClause .join (.unsupportedJoinType "in\u2003NER")) := by
  obtain ⟨hdialect, -, -, -, -, hoperator, hjoinType, -⟩ := spellings_agree
  have hpattern : Rephrased "NOT LIKE" " nOt\t\u00a0LiKe\n" := by
    have hspace : Respaced "NOT LIKE" "NOT\t\u00a0LIKE" :=
      .intro "NOT" " " "\t\u00a0" "LIKE" (by decide) (by decide) (by decide) (by decide)
    have hcase : Respelled "NOT\t\u00a0LIKE" " nOt\t\u00a0LiKe\n" :=
      .intro " " "nOt\t\u00a0LiKe" "\n" (by decide) (by simp [CaseVariant]) (by decide)
    exact .tail (.single (Or.inr hspace)) (Or.inl hcase)
  refine ⟨hpattern, ?_, ?_, ?_⟩
  · exact hoperator.accepted hpattern (hoperator.canonical (.like true))
  · have hcase : Respelled "PGSQL" "\u3000PgSQL " :=
      .intro "\u3000" "PgSQL" " " (by decide) (by simp [CaseVariant]) (by decide)
    have hparse : Dialect.parse "PGSQL" = .ok .postgresql := by decide
    exact hdialect.accepted hcase hparse
  · have hspace : Respaced "in NER" "in\u2003NER" :=
      .intro "in" " " "\u2003" "NER" (by decide) (by decide) (by decide) (by decide)
    have hparse : JoinType.parse "in NER" =
        .error (.invalidClause .join (.unsupportedJoinType "in NER")) := by decide
    exact hjoinType.refused (.single (Or.inr hspace)) hparse

end DialectSql
