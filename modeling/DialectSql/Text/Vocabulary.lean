import DialectSql.Text.Blank

/-!
# Closed vocabularies

A closed vocabulary is a table of words, each with its meaning. A text is looked up after what does
not belong to it has been set aside: `ofSign?` trims the text, `ofWord?` leaves the case of its
ASCII letters aside as well, and `ofPhrase?` also takes any run of blanks inside it for a single
space.
-/

set_option autoImplicit false

namespace DialectSql.Text

/-- Words in upper case and what each of them means; of two entries for a word the first counts. -/
abbrev Vocabulary (α : Type) := List (String × α)

namespace Vocabulary

variable {α : Type}

/-- The meaning of a text as a sign, which is looked up as it is. -/
def ofSign? (v : Vocabulary α) (s : String) : Option α := v.lookup (trim s)

/-- The meaning of a text as one word. -/
def ofWord? (v : Vocabulary α) (s : String) : Option α := v.lookup (upper (trim s))

/-- The meaning of a text as a phrase of words. -/
def ofPhrase? (v : Vocabulary α) (s : String) : Option α := v.lookup (upper (singleSpaced s))

end Vocabulary

end DialectSql.Text
