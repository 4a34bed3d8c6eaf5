import DialectSql.Proofs.Query.WellFormed
import DialectSql.Proofs.Text.Words

/-!
# Which conditions on a column are accepted

A condition on a column is given by texts and a value, which are checked and normalised before the
condition is there, and it is written later from what has been made of them. This module says which
values suit an operator (`Operator.Suits`) and what stands behind the operator in the text
(`Operator.Template`), both for the values as the caller gave them.

The main statement `leaf_conditions` joins the two: a condition is accepted exactly if the operator
is one, the column is not blank and the value suits the operator, and then it is written by the
template of its operator wherever its literals can be written.
-/

set_option autoImplicit false

namespace DialectSql

open Text

/-! ## Words in any case -/

/-- The text is the word, which is given in capital letters, with each letter in either case. -/
def SpelledInAnyCase (word s : String) : Prop :=
  List.Forall₂ (fun c w => c = w ∨ c = w.toLower) s.toList word.toList

/-- A list of characters has a word in capitals as its capitals exactly if each of them is a letter
of the word or its small letter. -/
theorem map_toUpper_eq_iff {word : List Char} (hword : word.all Char.isUpper = true)
    (cs : List Char) :
    cs.map Char.toUpper = word ↔ List.Forall₂ (fun c w => c = w ∨ c = w.toLower) cs word := by
  induction cs generalizing word with
  | nil => simp [eq_comm]
  | cons c cs ih =>
    cases word with
    | nil => simp
    | cons w word =>
      obtain ⟨hw, hword'⟩ := Bool.and_eq_true_iff.mp hword
      rw [List.map_cons, List.cons.injEq, List.forall₂_cons, toUpper_eq_iff hw, ih hword']

/-- A text stands for `NULL` if it is this word in any case, up to blanks around it. -/
theorem isNullLike_text_iff (s : String) :
    (Literal.text s).isNullLike = true ↔ SpelledInAnyCase "NULL" (trim s) := by
  have hword : "NULL".toList.all Char.isUpper = true := by decide
  rw [SpelledInAnyCase, ← map_toUpper_eq_iff hword, Literal.isNullLike, beq_iff_eq, upper,
    ← String.toList_inj, String.toList_ofList]

/-! ## Operators and values -/

/-- The value, as it is given, may stand in a condition with the operator. -/
inductive Operator.Suits : Operator → Operand → Prop where
  | compare (c : Comparison) (value : Literal) : Suits (compare c) (.scalar value)
  | like (negated : Bool) (value : Literal) (h : value ≠ .null) :
      Suits (like negated) (.scalar value)
  | member (negated : Bool) (values : List Literal) (h : values ≠ []) :
      Suits (member negated) (.list values)
  | between (negated : Bool) (low high : Literal) : Suits (between negated) (.range low high)
  /-- Two values are the bounds of a range. -/
  | betweenPair (negated : Bool) (low high : Literal) :
      Suits (between negated) (.list [low, high])
  | isNull (negated : Bool) : Suits (isNull negated) (.scalar .null)
  /-- The word for the null value, with any blanks around it. -/
  | isNullWord (negated : Bool) (s : String) (h : SpelledInAnyCase "NULL" (trim s)) :
      Suits (isNull negated) (.scalar (.text s))

/-- What stands behind the operator, given the texts of the literals in order. -/
inductive Operator.Template : Operator → List String → String → Prop where
  | compare (c : Comparison) (text : String) : Template (compare c) [text] text
  | like (negated : Bool) (text : String) : Template (like negated) [text] text
  | member (negated : Bool) (texts : List String) :
      Template (member negated) texts ("(" ++ ",".intercalate texts ++ ")")
  | between (negated : Bool) (low high : String) :
      Template (between negated) [low, high] (low ++ " AND " ++ high)
  /-- No literal is written. -/
  | isNull (negated : Bool) (texts : List String) : Template (isNull negated) texts "NULL"

namespace Operator

theorem suits_of_accept {o : Operator} {v w : Operand} (h : o.accept v = .ok w) : o.Suits v := by
  -- The cases are those of `accept`, in its order; the last one refuses all that is left.
  unfold accept at h
  split at h
  · exact .compare _ _
  · split at h
    · cases h
    · next hne => exact .like _ _ hne
  · split at h
    · cases h
    · next hne => exact .member _ _ hne
  · exact .between _ _ _
  · exact .betweenPair _ _ _
  · cases h
  · split at h
    · next v hnull =>
      cases v with
      | null => exact .isNull _
      | text s => exact .isNullWord _ s ((isNullLike_text_iff s).mp hnull)
      | _ => cases hnull
    · cases h
  · cases h

end Operator

section

variable {st : Style} {texts : List String}

theorem literals_singleton {v : Literal} (h : st.literals [v] = .ok texts) :
    ∃ text, texts = [text] ∧ st.literal v = .ok text := by
  rw [Style.literals, List.mapM_cons] at h
  obtain ⟨text, htext, hrest⟩ := exists_of_bind_eq_ok h
  exact ⟨text, (Except.ok.inj hrest).symm, htext⟩

theorem literals_pair {low high : Literal} (h : st.literals [low, high] = .ok texts) :
    ∃ lowText highText, texts = [lowText, highText] ∧ st.literal low = .ok lowText ∧
      st.literal high = .ok highText := by
  rw [Style.literals, List.mapM_cons] at h
  obtain ⟨lowText, hlow, hrest⟩ := exists_of_bind_eq_ok h
  obtain ⟨others, hothers, htexts⟩ := exists_of_bind_eq_ok hrest
  obtain ⟨highText, rfl, hhigh⟩ := literals_singleton hothers
  exact ⟨lowText, highText, (Except.ok.inj htexts).symm, hlow, hhigh⟩

end

namespace Operator

/-- A value that suits the operator is taken, and what is made of it is written by the template from
the literals that were given. -/
theorem exists_accept_of_suits {o : Operator} {v : Operand} (h : o.Suits v) :
    ∃ w, o.accept v = .ok w ∧ ∀ st texts, st.literals v.literals = .ok texts →
      ∃ text, o.Template texts text ∧ w.render st = .ok text := by
  have hrange (negated : Bool) (low high : Literal) (st : Style) (texts : List String)
      (htexts : st.literals [low, high] = .ok texts) :
      ∃ text, Template (between negated) texts text ∧
        (Operand.range low high).render st = .ok text := by
    obtain ⟨lowText, highText, rfl, hlow, hhigh⟩ := literals_pair htexts
    refine ⟨_, .between negated lowText highText, ?_⟩
    rw [Operand.render, hlow, hhigh]
    rfl
  cases h with
  | compare c value =>
    refine ⟨.scalar value, rfl, fun st texts htexts => ?_⟩
    obtain ⟨text, rfl, htext⟩ := literals_singleton htexts
    exact ⟨text, .compare c text, htext⟩
  | like negated value hne =>
    refine ⟨.scalar value, if_neg hne, fun st texts htexts => ?_⟩
    obtain ⟨text, rfl, htext⟩ := literals_singleton htexts
    exact ⟨text, .like negated text, htext⟩
  | member negated values hne =>
    refine ⟨.list values, if_neg hne, fun st texts htexts => ?_⟩
    refine ⟨_, .member negated texts, ?_⟩
    have htexts' : st.literals values = .ok texts := htexts
    rw [Operand.render, htexts']
    rfl
  | between negated low high => exact ⟨.range low high, rfl, hrange negated low high⟩
  | betweenPair negated low high => exact ⟨.range low high, rfl, hrange negated low high⟩
  | isNull negated =>
    exact ⟨.scalar .null, rfl, fun st texts _ => ⟨"NULL", .isNull negated texts, rfl⟩⟩
  | isNullWord negated s hword =>
    have haccept : accept (isNull negated) (.scalar (.text s)) = .ok (.scalar .null) := by
      rw [accept, if_pos ((isNullLike_text_iff s).mpr hword)]
    exact ⟨.scalar .null, haccept, fun st texts _ => ⟨"NULL", .isNull negated texts, rfl⟩⟩

end Operator

/-! ## Conditions on a column -/

namespace Predicate

variable {column : String} {o : Operator} {v w : Operand}

/-- A predicate can be made of a column that is not blank and an operand that suits the operator. -/
theorem exists_make_iff : (∃ p, make column o v = .ok p) ↔ trim column ≠ "" ∧ o.Suits v := by
  unfold make
  by_cases hcolumn : trim column = ""
  · rw [dif_pos hcolumn]
    exact iff_of_false (by rintro ⟨p, ⟨⟩⟩) fun h => h.1 hcolumn
  · rw [dif_neg hcolumn]
    split
    · next w haccept =>
      exact iff_of_true ⟨_, rfl⟩ ⟨hcolumn, Operator.suits_of_accept haccept⟩
    · next fault hfault =>
      refine iff_of_false (by rintro ⟨p, ⟨⟩⟩) fun h => ?_
      obtain ⟨w, haccept, -⟩ := Operator.exists_accept_of_suits h.2
      cases hfault.symm.trans haccept

theorem exists_fault_of_make {e : Error} (h : make column o v = .error e) :
    ∃ fault, e = .invalidCondition fault := by
  unfold make at h
  split at h
  · exact ⟨_, (Except.error.inj h).symm⟩
  · split at h
    · cases h
    · exact ⟨_, (Except.error.inj h).symm⟩

/-- A predicate has the trimmed column and what the operator has made of the value. -/
theorem eq_of_make {p : Predicate} (h : make column o v = .ok p) :
    p.column = trim column ∧ p.operator = o ∧ o.accept v = .ok p.operand := by
  unfold make at h
  split at h
  · cases h
  · split at h
    · next haccept =>
      cases h
      exact ⟨rfl, rfl, haccept⟩
    · cases h

/-- The text of a predicate is the column, the keyword and what the operator makes of the
literals. -/
theorem render_of_make {p : Predicate} (h : make column o v = .ok p) {st : Style}
    {texts : List String} (htexts : st.literals v.literals = .ok texts) :
    ∃ text, o.Template texts text ∧
      p.render st = .ok (st.dialect.identifier column ++ " " ++ o.keyword ++ " " ++ text) := by
  obtain ⟨hcolumn, rfl, haccept⟩ := eq_of_make h
  obtain ⟨w, haccept', hrender⟩ :=
    Operator.exists_accept_of_suits (Operator.suits_of_accept haccept)
  obtain rfl := Except.ok.inj (haccept.symm.trans haccept')
  obtain ⟨text, htemplate, hoperand⟩ := hrender st texts htexts
  refine ⟨text, htemplate, ?_⟩
  rw [render, hoperand, hcolumn, identifier_trim]
  rfl

end Predicate

theorem Operator.exists_fault_of_parse {operator : String} {e : Error}
    (h : parse operator = .error e) : ∃ fault, e = .invalidCondition fault := by
  unfold parse at h
  split at h
  · cases h
  · exact ⟨_, (Except.error.inj h).symm⟩

namespace Condition

/-- A condition on a column is made with the operator of its text. -/
theorem ofText_of_parse {column operator : String} {o : Operator}
    (h : Operator.parse operator = .ok o) (v : Operand) :
    ofText column operator v = (Predicate.make column o v).map leaf := by
  rw [ofText, h, ok_bind]
  cases Predicate.make column o v <;> rfl

/-- A condition without an operator is refused before anything else is looked at. -/
theorem ofText_of_not_parse {column operator : String} {e : Error}
    (h : Operator.parse operator = .error e) (v : Operand) :
    ofText column operator v = .error e := by
  rw [ofText, h]
  rfl

/-- A condition on a column is accepted if there is an operator with this text, the column is not
blank, and the operand suits the operator. -/
theorem exists_ofText_iff (column operator : String) (v : Operand) :
    (∃ c, ofText column operator v = .ok c) ↔
      ∃ o, Operator.parse operator = .ok o ∧ trim column ≠ "" ∧ o.Suits v := by
  cases hparse : Operator.parse operator with
  | error e =>
    rw [ofText_of_not_parse hparse]
    exact iff_of_false (by rintro ⟨c, ⟨⟩⟩) (by rintro ⟨o, ⟨⟩, -⟩)
  | ok o =>
    rw [ofText_of_parse hparse]
    constructor
    · rintro ⟨c, hc⟩
      obtain ⟨p, hp, -⟩ := exists_of_map_eq_ok hc
      exact ⟨o, rfl, Predicate.exists_make_iff.mp ⟨p, hp⟩⟩
    · rintro ⟨o', ho', h⟩
      obtain rfl := Except.ok.inj ho'
      obtain ⟨p, hp⟩ := Predicate.exists_make_iff.mpr h
      exact ⟨leaf p, by rw [hp]; rfl⟩

/-- What refuses a condition is a fault of conditions. -/
theorem exists_fault_of_ofText {column operator : String} {v : Operand} {e : Error}
    (h : ofText column operator v = .error e) : ∃ fault, e = .invalidCondition fault := by
  cases hparse : Operator.parse operator with
  | error e' =>
    rw [ofText_of_not_parse hparse] at h
    obtain rfl := Except.error.inj h
    exact Operator.exists_fault_of_parse hparse
  | ok o =>
    rw [ofText_of_parse hparse] at h
    cases hmake : Predicate.make column o v with
    | error e' =>
      rw [hmake] at h
      obtain rfl := Except.error.inj h
      exact Predicate.exists_fault_of_make hmake
    | ok p =>
      rw [hmake] at h
      cases h

/-- **Conditions on a column.** A condition is accepted exactly if its operator is one, its column
is not blank and its value suits the operator; the error is of the condition otherwise. Wherever the
literals of the value can be written, an accepted condition is the column as an identifier, the
operator and what its template makes of them. Two bounds may be given as a list. -/
theorem leaf_conditions (column operator : String) (v : Operand) :
    ((∃ c, ofText column operator v = .ok c) ↔
        ∃ o, Operator.parse operator = .ok o ∧ trim column ≠ "" ∧ o.Suits v) ∧
      (∀ e, ofText column operator v = .error e → ∃ fault, e = .invalidCondition fault) ∧
      (∀ c o, ofText column operator v = .ok c → Operator.parse operator = .ok o →
        ∀ st texts, st.literals v.literals = .ok texts →
          ∃ text, o.Template texts text ∧
            c.render st =
              .ok (st.dialect.identifier column ++ " " ++ o.keyword ++ " " ++ text)) ∧
      ∀ negated, Operator.parse operator = .ok (.between negated) → ∀ low high,
        ofText column operator (.list [low, high]) = ofText column operator (.range low high) := by
  refine ⟨exists_ofText_iff column operator v, fun _ => exists_fault_of_ofText, ?_, ?_⟩
  · intro c o hc ho st texts htexts
    rw [ofText_of_parse ho] at hc
    obtain ⟨p, hp, rfl⟩ := exists_of_map_eq_ok hc
    exact Predicate.render_of_make hp htexts
  · intro negated hparse low high
    rw [ofText_of_parse hparse, ofText_of_parse hparse]
    rfl

/-- Bounds in a list, the word for the null value, and the null value for a pattern. -/
theorem leaf_conditions_of_normalized_values :
    (∃ c, ofText " a.b " "not  between" (.list [.bool true, .text "z'"]) = .ok c ∧
        c.render (.standard .mysqli) = .ok "`a`.`b` NOT BETWEEN TRUE AND 'z\\''") ∧
      (∃ c, ofText "a" "is" (.scalar (.text " nULl\n")) = .ok c ∧
        c.render (.standard .oracle) = .ok "a IS NULL") ∧
      ∃ fault, ofText "a" "LIKE" (.scalar .null) = .error (.invalidCondition fault) := by
  refine ⟨?_, ?_, ?_⟩
  · have hparse : Operator.parse "not  between" = .ok (.between true) := by decide
    obtain ⟨hiff, -, hrender, -⟩ :=
      leaf_conditions " a.b " "not  between" (.list [.bool true, .text "z'"])
    obtain ⟨c, hc⟩ := hiff.mpr ⟨_, hparse, by decide, .betweenPair true _ _⟩
    obtain ⟨text, htemplate, htext⟩ :=
      hrender c _ hc hparse (.standard .mysqli) ["TRUE", "'z\\''"] (by decide)
    cases htemplate
    exact ⟨c, hc, htext⟩
  · have hparse : Operator.parse "is" = .ok (.isNull false) := by decide
    have hword : SpelledInAnyCase "NULL" (trim " nULl\n") := by
      rw [← isNullLike_text_iff]
      decide
    obtain ⟨hiff, -, hrender, -⟩ := leaf_conditions "a" "is" (.scalar (.text " nULl\n"))
    obtain ⟨c, hc⟩ := hiff.mpr ⟨_, hparse, by decide, .isNullWord false _ hword⟩
    obtain ⟨text, htemplate, htext⟩ :=
      hrender c _ hc hparse (.standard .oracle) ["' nULl\n'"] (by decide)
    cases htemplate
    exact ⟨c, hc, htext⟩
  · obtain ⟨hiff, hfault, -, -⟩ := leaf_conditions "a" "LIKE" (.scalar .null)
    have hparse : Operator.parse "LIKE" = .ok (.like false) := by decide
    cases hresult : ofText "a" "LIKE" (.scalar .null) with
    | error e =>
      obtain ⟨fault, rfl⟩ := hfault e hresult
      exact ⟨fault, rfl⟩
    | ok c =>
      obtain ⟨o, ho, -, hsuits⟩ := hiff.mp ⟨c, hresult⟩
      obtain rfl := Except.ok.inj (hparse.symm.trans ho)
      cases hsuits with
      | like _ _ hne => exact absurd rfl hne

end Condition

end DialectSql
