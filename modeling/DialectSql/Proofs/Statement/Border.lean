import DialectSql.Proofs.Query.TablePrefix

/-!
# Texts without the placeholder

The placeholder of the prefix stands in a statement where a name starts. Everything else that is
written has no placeholder in it if the texts of the caller have none, and nothing of it is part of
one: what stands in front of a name ends with a character that the placeholder does not have
(`Leading`), and what stands behind a name starts with one (`Trailing`). The words and marks of SQL
do both (`Words`), so a text between them can stand beside a name whatever the caller wrote into it.
This module says so of the lists and clauses of which the statements are made.
-/

set_option autoImplicit false

namespace DialectSql

open Text

/-! ## Lists of texts -/

/-- No text of the list has the placeholder in it. -/
def Unmarked (texts : List String) : Prop := ∀ t ∈ texts, ¬ Occurs tablePlaceholder t

instance (texts : List String) : Decidable (Unmarked texts) :=
  inferInstanceAs (Decidable (∀ t ∈ texts, ¬ Occurs tablePlaceholder t))

theorem unmarked_nil : Unmarked [] := List.forall_mem_nil _

theorem unmarked_append {ts us : List String} :
    Unmarked (ts ++ us) ↔ Unmarked ts ∧ Unmarked us := List.forall_mem_append

theorem unmarked_cons {t : String} {ts : List String} :
    Unmarked (t :: ts) ↔ ¬ Occurs tablePlaceholder t ∧ Unmarked ts := List.forall_mem_cons

theorem unmarked_flatMap {α : Type} {f : α → List String} {xs : List α} :
    Unmarked (xs.flatMap f) ↔ ∀ x ∈ xs, Unmarked (f x) := List.forall_mem_flatMap

theorem unmarked_of_avoids {ts : List String}
    (h : ts.all (avoids tablePlaceholder) = true) : Unmarked ts := fun t ht =>
  not_occurs_of_avoids tablePlaceholder_ne_empty (List.all_eq_true.mp h t ht)

/-- Two lists without the placeholder can be combined by any function that makes none. -/
theorem unmarked_zipWith {f : String → String → String}
    (hf : ∀ a b, ¬ Occurs tablePlaceholder a → ¬ Occurs tablePlaceholder b →
      ¬ Occurs tablePlaceholder (f a b)) {ts us : List String} (hts : Unmarked ts)
    (hus : Unmarked us) : Unmarked (ts.zipWith f us) := by
  intro text htext
  obtain ⟨i, hi, rfl⟩ := List.mem_iff_getElem.mp htext
  rw [List.getElem_zipWith]
  exact hf _ _ (hts _ (List.getElem_mem _)) (hus _ (List.getElem_mem _))

/-! ## Texts around a name -/

/-- What can stand in front of a name: the placeholder does not occur in it and does not reach out
of it. -/
structure Leading (s : String) : Prop where
  unmarked : ¬ Occurs tablePlaceholder s
  endsApart : endsApart tablePlaceholder s = true

/-- What can stand behind a name: the placeholder does not occur in it and does not reach into
it. -/
structure Trailing (s : String) : Prop where
  unmarked : ¬ Occurs tablePlaceholder s
  startsApart : startsApart tablePlaceholder s = true

/-- The words and marks of SQL, which can stand on both sides of a name. -/
structure Words (w : String) : Prop where
  ne_empty : w ≠ ""
  leading : Leading w
  trailing : Trailing w

instance (s : String) : Decidable (Leading s) :=
  decidable_of_iff (¬ Occurs tablePlaceholder s ∧ Text.endsApart tablePlaceholder s = true)
    ⟨fun h => ⟨h.1, h.2⟩, fun h => ⟨h.1, h.2⟩⟩

instance (s : String) : Decidable (Trailing s) :=
  decidable_of_iff (¬ Occurs tablePlaceholder s ∧ Text.startsApart tablePlaceholder s = true)
    ⟨fun h => ⟨h.1, h.2⟩, fun h => ⟨h.1, h.2⟩⟩

instance (w : String) : Decidable (Words w) :=
  decidable_of_iff (w ≠ "" ∧ Leading w ∧ Trailing w)
    ⟨fun h => ⟨h.1, h.2.1, h.2.2⟩, fun h => ⟨h.1, h.2, h.3⟩⟩

/-- A text without the placeholder can follow what ends apart. -/
theorem Leading.append {a x : String} (h : Leading a) (hx : ¬ Occurs tablePlaceholder x) :
    ¬ Occurs tablePlaceholder (a ++ x) :=
  not_occurs_append tablePlaceholder_ne_empty (Or.inl h.endsApart) h.unmarked hx

/-- A text without the placeholder can precede what starts apart. -/
theorem Trailing.append {b : String} (h : Trailing b) {x : String}
    (hx : ¬ Occurs tablePlaceholder x) : ¬ Occurs tablePlaceholder (x ++ b) :=
  not_occurs_append tablePlaceholder_ne_empty (Or.inr h.startsApart) hx h.unmarked

theorem trailing_append {a b : String} (ha : Trailing a) (hb : Trailing b) : Trailing (a ++ b) where
  unmarked := hb.append ha.unmarked
  startsApart := startsApart_append ha.startsApart hb.startsApart

section Words

variable {w : String} (hw : Words w)
include hw

/-- Behind words any text without the placeholder may follow. -/
theorem trailing_words {x : String} (hx : ¬ Occurs tablePlaceholder x) : Trailing (w ++ x) where
  unmarked := hw.leading.append hx
  startsApart := startsApart_append_of_ne_empty hw.ne_empty hw.trailing.startsApart x

/-- In front of words any text without the placeholder may stand. -/
theorem leading_words {x : String} (hx : ¬ Occurs tablePlaceholder x) : Leading (x ++ w) where
  unmarked := hw.trailing.append hx
  endsApart := endsApart_append_of_ne_empty hw.ne_empty hw.leading.endsApart x

/-- A text in parentheses, the first of which is the end of the words. -/
theorem trailing_enclosed {x : String} (hx : ¬ Occurs tablePlaceholder x) :
    Trailing (w ++ x ++ ")") :=
  trailing_append (trailing_words hw hx) (by decide)

/-- Words between two texts keep them apart. -/
theorem not_occurs_joined {a b : String} (ha : ¬ Occurs tablePlaceholder a)
    (hb : ¬ Occurs tablePlaceholder b) : ¬ Occurs tablePlaceholder (a ++ w ++ b) :=
  (leading_words hw ha).append hb

theorem unmarked_joined {ts us : List String} (hts : Unmarked ts) (hus : Unmarked us) :
    Unmarked (ts.zipWith (fun a b => a ++ w ++ b) us) :=
  unmarked_zipWith (fun _ _ => not_occurs_joined hw) hts hus

/-- Words between the items of a list keep them apart. -/
theorem not_occurs_intercalate {items : List String} (h : Unmarked items) :
    ¬ Occurs tablePlaceholder (w.intercalate items) := by
  induction items with
  | nil => exact not_occurs_empty tablePlaceholder_ne_empty
  | cons item items ih =>
    obtain ⟨hitem, hitems⟩ := unmarked_cons.mp h
    by_cases hne : items = []
    · rw [hne, String.intercalate_singleton]
      exact hitem
    · rw [String.intercalate_cons_of_ne_nil hne]
      exact not_occurs_joined hw hitem (ih hitems)

/-- The items of a list that are not empty, with words between them. -/
theorem not_occurs_listed {items : List String} (h : Unmarked items) :
    ¬ Occurs tablePlaceholder (listed w items) :=
  not_occurs_intercalate hw fun t ht => h t (List.mem_of_mem_filter ht)

end Words

/-! ## Separators -/

theorem words_blank : Words " " := by decide

theorem words_comma : Words "," := by decide

theorem words_spacedComma : Words ", " := by decide

/-- Parentheses keep a text apart from what is around it. -/
theorem not_occurs_parenthesized {x : String} (hx : ¬ Occurs tablePlaceholder x) :
    ¬ Occurs tablePlaceholder ("(" ++ x ++ ")") :=
  (trailing_enclosed (by decide) hx).unmarked

/-! ## Clauses -/

/-- A clause is empty or starts with its keyword. -/
theorem trailing_clause {keyword body : String} (hw : Words (" " ++ keyword ++ " "))
    (hbody : ¬ Occurs tablePlaceholder body) : Trailing (clause keyword body) := by
  by_cases hne : body = ""
  · rw [hne, clause_empty]
    decide
  · rw [clause_of_ne_empty hne]
    exact trailing_words hw hbody

theorem words_where : Words (" " ++ "WHERE" ++ " ") := by decide

/-- A clause that may be missing can stand behind a name. -/
theorem trailing_optionalClause {keyword : String} (hw : Words (" " ++ keyword ++ " "))
    {body : Option String} (h : Unmarked body.toList) :
    Trailing (optionalClause keyword body) := by
  cases body with
  | none => exact (by decide : Trailing "")
  | some body => exact trailing_clause hw (unmarked_cons.mp h).1

/-- A number is made of digits, none of which starts the placeholder. -/
theorem avoids_repr (k : Nat) : avoids tablePlaceholder k.repr = true := by
  rw [avoids, Nat.toList_repr, List.all_eq_true]
  intro c hc
  have hdigit := Nat.isDigit_of_mem_toDigits (by decide) (by decide) hc
  rw [bne_iff_ne]
  rintro ⟨⟩
  revert hdigit
  decide

/-- A limit is made of words and numbers, and the first of them is a word. -/
theorem trailing_limitClause (d : Dialect) (limit offset : Nat) (ordered : Bool) :
    Trailing (limitClause d limit offset ordered) := by
  by_cases hlimit : limit = 0
  · cases d <;> simp +decide [limitClause, hlimit]
  · have havoids : avoids tablePlaceholder (limitClause d limit offset ordered) = true := by
      by_cases hoffset : offset = 0 <;> cases d <;> cases ordered <;>
        simp +decide [limitClause, hlimit, hoffset, avoids_append, avoids_repr]
    constructor
    · exact not_occurs_of_avoids tablePlaceholder_ne_empty havoids
    · by_cases hoffset : offset = 0 <;> cases d <;> cases ordered <;>
        simp +decide [limitClause, hlimit, hoffset, String.append_assoc,
          startsApart_append_of_ne_empty]

end DialectSql
