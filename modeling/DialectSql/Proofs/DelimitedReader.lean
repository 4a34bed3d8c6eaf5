import DialectSql.Proofs.LiteralReader
import Mathlib.Data.List.Count

/-!
# Reading between delimiters

A text between two equal delimiters may have the delimiter in it, written twice. This is how SQL
writes text literals between quotes, and MySQL names between backticks. `readDelimited` reads what
follows the opening delimiter.

A text without the delimiter is read as it stands (`readDelimited_append`). Every delimiter that is
read takes two characters, so the length of what has been read tells whether there were any
(`length_of_readDelimited`): whoever puts a text with delimiters between two of them as it is does
not get it back.
-/

set_option autoImplicit false

namespace DialectSql.DelimitedReader

/-- The text after an opening delimiter and what follows its closing one: two delimiters stand for
one, and a single one closes the text. -/
def readDelimited (q : Char) : List Char → Option (List Char × List Char)
  | [] => none
  | c :: cs =>
      if c = q then
        match cs with
        | [] => some ([], [])
        | c' :: rest =>
            if c' = q then (readDelimited q rest).map (Prod.map (q :: ·) id)
            else some ([], c' :: rest)
      else (readDelimited q cs).map (Prod.map (c :: ·) id)

variable {q : Char}

theorem readDelimited_cons {c : Char} (hc : c ≠ q) (cs : List Char) :
    readDelimited q (c :: cs) = (readDelimited q cs).map (Prod.map (c :: ·) id) := by
  rw [readDelimited.eq_def]
  exact if_neg hc

theorem readDelimited_twice (cs : List Char) :
    readDelimited q (q :: q :: cs) = (readDelimited q cs).map (Prod.map (q :: ·) id) := by
  simp only [readDelimited, if_pos]

theorem readDelimited_close {rest : List Char} (hrest : rest.head? ≠ some q) :
    readDelimited q (q :: rest) = some ([], rest) := by
  cases rest with
  | nil => simp only [readDelimited, if_pos]
  | cons c rest =>
    have hc : c ≠ q := fun hc => hrest (congrArg some hc)
    simp only [readDelimited, if_pos, if_neg hc]

/-- A text without the delimiter is read up to the delimiter that closes it. -/
theorem readDelimited_append {text : List Char} (htext : q ∉ text) {rest : List Char}
    (hrest : rest.head? ≠ some q) : readDelimited q (text ++ q :: rest) = some (text, rest) := by
  induction text with
  | nil => exact readDelimited_close hrest
  | cons c text ih =>
    obtain ⟨hc, htext'⟩ := not_or.mp (List.mem_cons.not.mp htext)
    rw [List.cons_append, readDelimited_cons (Ne.symm hc), ih htext']
    rfl

/-- Each character that is read takes one character, a delimiter takes two, and the closing one is
one more. -/
theorem length_of_readDelimited {cs text rest : List Char}
    (h : readDelimited q cs = some (text, rest)) :
    cs.length = text.length + text.count q + 1 + rest.length := by
  fun_induction readDelimited q cs generalizing text rest with
  | case1 => cases h
  | case2 =>
    cases h
    simp
  | case3 rest' ih =>
    obtain ⟨⟨text', rest''⟩, hread, hmap⟩ := Option.map_eq_some_iff.mp h
    cases hmap
    have := ih hread
    simp only [List.length_cons, List.count_cons_self, id]
    omega
  | case4 c rest' hc =>
    cases h
    simp
    omega
  | case5 c cs hc ih =>
    obtain ⟨⟨text', rest'⟩, hread, hmap⟩ := Option.map_eq_some_iff.mp h
    cases hmap
    have := ih hread
    simp only [List.length_cons, List.count_cons_of_ne hc, id]
    omega

/-- Outside of MySQL a text literal is read between its quotes. -/
theorem readDoubled_eq_readDelimited (cs : List Char) :
    LiteralReader.readDoubled cs = readDelimited '\'' cs := by
  fun_induction LiteralReader.readDoubled cs with
  | case1 => rfl
  | case2 cs ih => rw [readDelimited_twice, ih]
  | case3 rest hrest =>
    refine (readDelimited_close fun hhead => ?_).symm
    obtain ⟨r, rfl⟩ := List.head?_eq_some_iff.mp hhead
    exact hrest r rfl
  | case4 c cs _ hc ih => rw [readDelimited_cons hc, ih]

end DialectSql.DelimitedReader
