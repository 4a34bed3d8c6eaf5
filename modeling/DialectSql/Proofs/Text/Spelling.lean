/-!
# Texts spelled by lexemes

A reader works on lexemes, and a statement is a text. `spelled` is the text of a list of lexemes,
which have a text each; it goes through lists put together from parts.
-/

set_option autoImplicit false

namespace DialectSql.Text

variable {α : Type} (text : α → String)

/-- The texts of lexemes, one after the other. -/
def spelled (ls : List α) : String := String.join (ls.map text)

@[simp] theorem spelled_nil : spelled text [] = "" := rfl

@[simp] theorem spelled_cons (l : α) (ls : List α) :
    spelled text (l :: ls) = text l ++ spelled text ls := by
  simp [spelled]

@[simp] theorem spelled_append (ls ms : List α) :
    spelled text (ls ++ ms) = spelled text ls ++ spelled text ms := by
  simp [spelled]

theorem spelled_intercalate (sep : List α) (parts : List (List α)) :
    spelled text (sep.intercalate parts) =
      (spelled text sep).intercalate (parts.map (spelled text)) := by
  induction parts with
  | nil => simp
  | cons part parts ih =>
    by_cases hne : parts = []
    · subst hne
      simp
    · rw [List.intercalate_cons_of_ne_nil hne, List.map_cons,
        String.intercalate_cons_of_ne_nil (by simpa using hne), spelled_append, spelled_append, ih]

end DialectSql.Text
