import DialectSql.Condition.Operator
import DialectSql.Proofs.LiteralReader

/-!
# Reading a condition

The text of a condition has predicates, connectives between them and parentheses, and all of these
signs can stand in a text literal as well; an `AND` also stands between the bounds of a range.
`readCondition` reads the text back into the `Item`s that it was written from: predicates, each with
its column, its operator and the texts of its literals, connectives, and groups, which are lists of
items again.

The reader goes through the text once. It alternates between two places: where an operand has to
come next, a parenthesis opens a group and anything else starts a predicate (`readOperand`); behind
an operand, a parenthesis closes a group and a word is a connective (`readConnective`). A predicate
is read as a whole up to the end of its last literal, and a text literal up to its closing quote, so
that nothing in them is taken for a sign of the condition. The reader does not know how conditions
are written.
-/

set_option autoImplicit false

namespace DialectSql.ConditionReader

open LiteralReader

/-! ## Items -/

/-- What the text of a condition consists of. -/
inductive Item where
  /-- A column, an operator and the texts of the literals behind it. -/
  | predicate (column : String) (operator : Operator) (literals : List String)
  | connective (k : Connective)
  /-- What stands between parentheses. -/
  | group (items : List Item)

/-- Literals as they stand behind an operator: the members of a list in parentheses, the bounds of a
range with `AND` between them. -/
def operandText : Operator → List String → String
  | .member _, texts => "(" ++ ",".intercalate texts ++ ")"
  | .between _, texts => " AND ".intercalate texts
  | _, texts => String.join texts

mutual

/-- The text of an item. A connective stands between spaces, and there are none at parentheses. -/
def Item.text : Item → String
  | .predicate column o literals => column ++ " " ++ o.keyword ++ " " ++ operandText o literals
  | .connective k => " " ++ k.keyword ++ " "
  | .group items => "(" ++ Item.texts items ++ ")"

/-- The texts of items, one after the other. -/
def Item.texts : List Item → String
  | [] => ""
  | item :: items => item.text ++ Item.texts items

end

theorem texts_append (items further : List Item) :
    Item.texts (items ++ further) = Item.texts items ++ Item.texts further := by
  induction items with
  | nil => simp [Item.texts]
  | cons item items ih => rw [List.cons_append, Item.texts, Item.texts, ih, String.append_assoc]

theorem texts_singleton (item : Item) : Item.texts [item] = item.text := by
  simp [Item.texts]

theorem texts_group (items : List Item) :
    Item.texts [.group items] = "(" ++ Item.texts items ++ ")" := by
  rw [texts_singleton, Item.text]

/-- A connective stands between the items to its left and those to its right. -/
theorem texts_connected (left : List Item) (k : Connective) (right : List Item) :
    Item.texts (left ++ [.connective k] ++ right) =
      Item.texts left ++ (Item.connective k).text ++ Item.texts right := by
  rw [texts_append, texts_append, texts_singleton]

/-! ## The text of a literal -/

/-- A character that belongs to a literal without quotes. -/
def isBare (c : Char) : Bool := c != ' ' && c != ',' && c != ')' && c != '\''

/-- The text of one literal and what follows it: up to the closing quote, or as long as there is no
sign that ends a literal. -/
def readSlice (d : Dialect) : List Char → Option (String × List Char)
  | '\'' :: cs =>
      (readText d cs).map fun (_, rest) =>
        (String.ofList ('\'' :: cs.take (cs.length - rest.length)), rest)
  | cs => (takeRun isBare cs).map fun (run, rest) => (String.ofList run, rest)

/-- A literal has at least one character. -/
theorem readSlice_length_lt {d : Dialect} {cs rest : List Char} {t : String}
    (h : readSlice d cs = some (t, rest)) : rest.length < cs.length := by
  unfold readSlice at h
  split at h
  · obtain ⟨⟨text, r⟩, hr, hmap⟩ := Option.map_eq_some_iff.mp h
    cases hmap
    exact Nat.lt_succ_of_lt (readText_length_lt hr)
  · obtain ⟨⟨run, r⟩, hr, hmap⟩ := Option.map_eq_some_iff.mp h
    cases hmap
    exact takeRun_length_lt hr

theorem consumes_readSlice (d : Dialect) : Consumes (readSlice d) :=
  fun _ _ _ => readSlice_length_lt

/-- A literal ends here: at a space, a comma or a closing parenthesis, or where the text ends. -/
def AtBoundary (rest : List Char) : Prop := ∀ c ∈ rest.head?, c = ' ' ∨ c = ',' ∨ c = ')'

theorem atBoundary_nil : AtBoundary [] := by
  rintro c ⟨⟩

theorem atBoundary_cons {c : Char} (h : c = ' ' ∨ c = ',' ∨ c = ')') (cs : List Char) :
    AtBoundary (c :: cs) := by
  rintro c' ⟨⟩
  exact h

/-- A literal ends in front of a connective, whose text starts with a space. -/
theorem atBoundary_connective (k : Connective) (rest : List Char) :
    AtBoundary ((Item.connective k).text.toList ++ rest) := by
  have hchars : (Item.connective k).text.toList ++ rest =
      ' ' :: ((k.keyword ++ " ").toList ++ rest) := by
    simp [Item.text, String.toList_append]
  rw [hchars]
  exact atBoundary_cons (Or.inl rfl) _

/-- The text is read as one literal wherever a literal can end behind it. -/
def IsSlice (d : Dialect) (text : String) : Prop :=
  ∀ rest, AtBoundary rest → readSlice d (text.toList ++ rest) = some (text, rest)

/-- A text without quotes and without signs that end a literal is read as a whole, since its first
character is no quote. -/
theorem isSlice_bare (d : Dialect) {text : String} (hne : text ≠ "")
    (hbare : text.toList.all isBare = true) : IsSlice d text := by
  intro rest hrest
  have hbare := List.all_eq_true.mp hbare
  have hend : ∀ c ∈ rest.head?, isBare c = false := by
    intro c hc
    rcases hrest c hc with rfl | rfl | rfl <;> rfl
  have hrun := takeRun_append (by simpa using hne) hbare hend
  obtain ⟨c, cs, hcs⟩ := List.exists_cons_of_ne_nil (l := text.toList) (by simpa using hne)
  rw [readSlice, hrun]
  · simp
  · intro r hr
    rw [hcs] at hr
    cases hr
    have hquote := hbare '\'' (by simp [hcs])
    cases hquote

/-- A quoted text is read up to its closing quote: what has been read is the text without the part
that is left over. -/
theorem isSlice_quote (d : Dialect) (s : String) : IsSlice d ((Style.standard d).quote s) := by
  intro rest hrest
  have hnoquote : rest.head? ≠ some '\'' := by
    intro hquote
    rcases hrest '\'' hquote with h | h | h <;> cases h
  have hchars : ((Style.standard d).quote s).toList =
      '\'' :: (s.toList.flatMap (Escaper.standardChar d) ++ ['\'']) := by
    simp [Style.quote, Style.standard, Escaper.standard, String.toList_append]
  have hread := readText_escaped d s.toList hnoquote
  rw [← String.ofList_toList (s := (Style.standard d).quote s), hchars]
  generalize s.toList.flatMap (Escaper.standardChar d) = body at hread ⊢
  have htaken : (body ++ '\'' :: rest).take ((body ++ '\'' :: rest).length - rest.length) =
      body ++ ['\''] := by
    rw [← List.singleton_append, ← List.append_assoc, List.length_append, Nat.add_sub_cancel]
    exact List.take_left
  simp only [String.toList_ofList, List.cons_append, List.append_assoc, List.nil_append, readSlice,
    hread, Option.map_some, htaken]

theorem isBare_of_isDigit {c : Char} (h : c.isDigit = true) : isBare c = true := by
  have hne (sign : Char) (hsign : sign.isDigit = false) : (c != sign) = true := by
    rw [bne_iff_ne]
    rintro rfl
    rw [h] at hsign
    cases hsign
  rw [isBare, hne ' ' rfl, hne ',' rfl, hne ')' rfl, hne '\'' rfl]
  rfl

theorem isBare_of_mem_toDigits {n : Nat} {c : Char} (h : c ∈ Nat.toDigits 10 n) :
    isBare c = true :=
  isBare_of_isDigit (Nat.isDigit_of_mem_toDigits (by decide) (by decide) h)

theorem isSlice_nat (d : Dialect) (n : Nat) : IsSlice d n.repr := by
  refine isSlice_bare d ?_ (List.all_eq_true.mpr fun c hc => ?_)
  · rw [← String.toList_inj.ne, Nat.toList_repr]
    exact Nat.toDigits_ne_nil
  · rw [Nat.toList_repr] at hc
    exact isBare_of_mem_toDigits hc

/-- An integer is read with its sign. -/
theorem isSlice_int (d : Dialect) (n : Int) : IsSlice d n.repr := by
  rw [Int.repr_eq_if]
  split
  · exact isSlice_nat d n.toNat
  · refine isSlice_bare d (by simp) (List.all_eq_true.mpr fun c hc => ?_)
    rw [String.toList_append, Nat.toList_repr] at hc
    rcases List.mem_append.mp hc with hsign | hdigit
    · obtain rfl : c = '-' := by simpa using hsign
      rfl
    · exact isBare_of_mem_toDigits hdigit

/-- What is written for a plain literal is read as one literal. -/
theorem isSlice_literal {d : Dialect} {v : Literal} (hv : isPlain v = true) {text : String}
    (h : (Style.standard d).literal v = .ok text) : IsSlice d text := by
  cases v with
  | null =>
    cases h
    exact isSlice_bare d (by decide) (by decide)
  | bool b =>
    cases h
    cases d <;> cases b <;> exact isSlice_bare _ (by decide) (by decide)
  | int n =>
    cases h
    exact isSlice_int d n.toInt
  | uint n =>
    cases h
    exact isSlice_nat d n.toNat
  | float x => cases hv
  | text s =>
    cases h
    exact isSlice_quote d s
  | dateTime t => cases hv

/-! ## The literals of a predicate -/

/-- The literals behind an operator and what follows them. -/
def readLiterals (d : Dialect) : Operator → List Char → Option (List String × List Char)
  | .member _, '(' :: cs => readItems (readSlice d) (consumes_readSlice d) cs
  | .member _, _ => none
  | .between _, cs => do
      let (low, rest) ← readSlice d cs
      let (high, rest) ← readSlice d (← rest.dropPrefix? " AND ".toList)
      return ([low, high], rest)
  | _, cs => (readSlice d cs).map fun (t, rest) => ([t], rest)

/-! ## Predicates -/

/-- The operator that comes next between spaces, and what follows it. The longer words are tried
first. -/
def readOperator (cs : List Char) : Option (Operator × List Char) :=
  Operator.all.reverse.findSome? fun o =>
    (cs.dropPrefix? (" " ++ o.keyword ++ " ").toList).map (o, ·)

/-- A predicate and what follows it: a column, an operator and its literals. -/
def readPredicate (d : Dialect) (cs : List Char) : Option (Item × List Char) := do
  let (column, rest) ← takeRun (· != ' ') cs
  let (o, rest) ← readOperator rest
  let (literals, rest) ← readLiterals d o rest
  return (.predicate (String.ofList column) o literals, rest)

theorem length_le_of_dropPrefix? {cs word rest : List Char} (h : cs.dropPrefix? word = some rest) :
    rest.length ≤ cs.length := by
  obtain ⟨start, rfl, -⟩ := List.dropPrefix?_eq_some_iff.mp h
  simp

/-- The literals of a predicate have at least one character. -/
theorem readLiterals_length_lt {d : Dialect} {o : Operator} {cs rest : List Char}
    {texts : List String} (h : readLiterals d o cs = some (texts, rest)) :
    rest.length < cs.length := by
  unfold readLiterals at h
  split at h
  · exact Nat.lt_succ_of_lt (readItems_length_lt (consumes_readSlice _) h)
  · cases h
  · obtain ⟨⟨low, further⟩, hlow, h⟩ := Option.bind_eq_some_iff.mp h
    obtain ⟨behind, hdrop, h⟩ := Option.bind_eq_some_iff.mp h
    obtain ⟨⟨high, r⟩, hhigh, h⟩ := Option.bind_eq_some_iff.mp h
    cases h
    have hfirst := readSlice_length_lt hlow
    have hand := length_le_of_dropPrefix? hdrop
    have hsecond := readSlice_length_lt hhigh
    omega
  · obtain ⟨⟨t, r⟩, hr, hmap⟩ := Option.map_eq_some_iff.mp h
    cases hmap
    exact readSlice_length_lt hr

theorem length_le_of_readOperator {cs rest : List Char} {o : Operator}
    (h : readOperator cs = some (o, rest)) : rest.length ≤ cs.length := by
  obtain ⟨o', -, ho⟩ := List.exists_of_findSome?_eq_some h
  obtain ⟨r, hr, hmap⟩ := Option.map_eq_some_iff.mp ho
  cases hmap
  exact length_le_of_dropPrefix? hr

/-- Every predicate has at least one character, so the reader of conditions ends. -/
theorem readPredicate_length_lt {d : Dialect} {cs rest : List Char} {item : Item}
    (h : readPredicate d cs = some (item, rest)) : rest.length < cs.length := by
  obtain ⟨⟨column, behindColumn⟩, hcolumn, h⟩ := Option.bind_eq_some_iff.mp h
  obtain ⟨⟨o, behindOperator⟩, ho, h⟩ := Option.bind_eq_some_iff.mp h
  obtain ⟨⟨texts, r⟩, htexts, h⟩ := Option.bind_eq_some_iff.mp h
  cases h
  have hfirst := takeRun_length_lt hcolumn
  have hsecond := length_le_of_readOperator ho
  have hthird := readLiterals_length_lt htexts
  omega

/-! ## Conditions -/

mutual

/-- Goes on where an operand has to come next, with the items that have been read. The groups around
them are still open, the innermost first. -/
def readOperand (d : Dialect) (around : List (List Item)) (items : List Item) (cs : List Char) :
    Option (List Item) :=
  match cs with
  | '(' :: cs => readOperand d (items :: around) [] cs
  | cs =>
      match _h : readPredicate d cs with
      | some (item, rest) => readConnective d around (items ++ [item]) rest
      | none => none
termination_by cs.length
decreasing_by
  · simp
  · exact readPredicate_length_lt _h

/-- Goes on behind an operand. -/
def readConnective (d : Dialect) (around : List (List Item)) (items : List Item) (cs : List Char) :
    Option (List Item) :=
  match cs with
  | [] => if around = [] then some items else none
  | ')' :: cs =>
      match around with
      | outer :: around => readConnective d around (outer ++ [.group items]) cs
      | [] => none
  | ' ' :: 'A' :: 'N' :: 'D' :: ' ' :: cs => readOperand d around (items ++ [.connective .and]) cs
  | ' ' :: 'O' :: 'R' :: ' ' :: cs => readOperand d around (items ++ [.connective .or]) cs
  | _ => none
termination_by cs.length
decreasing_by
  all_goals
    simp only [List.length_cons]
    omega

end

/-- The items of a condition. -/
def readCondition (d : Dialect) (cs : List Char) : Option (List Item) := readOperand d [] [] cs

/-! ## What is read of a written item -/

/-- A separator of a list is one of the places where a literal can end. -/
theorem IsSlice.readsAs {d : Dialect} {text : String} (h : IsSlice d text) :
    ReadsAs (readSlice d) text text := by
  rintro rest ⟨cs, rfl | rfl⟩
  · exact h _ (atBoundary_cons (by simp) cs)
  · exact h _ (atBoundary_cons (by simp) cs)

/-- The literals that an operator can stand before: some members, two bounds, the null value, or one
literal. -/
def Takes : Operator → List String → Prop
  | .member _, texts => texts ≠ []
  | .between _, texts => ∃ low high, texts = [low, high]
  | .isNull _, texts => texts = ["NULL"]
  | _, texts => ∃ t, texts = [t]

/-- The two literals of a range are read with `AND` between them. -/
theorem readLiterals_between {d : Dialect} {negated : Bool} {cs behindLow atHigh rest : List Char}
    {low high : String} (hlow : readSlice d cs = some (low, behindLow))
    (hand : behindLow.dropPrefix? " AND ".toList = some atHigh)
    (hhigh : readSlice d atHigh = some (high, rest)) :
    readLiterals d (.between negated) cs = some ([low, high], rest) := by
  simp only [readLiterals, hlow, hand, hhigh, Option.bind_eq_bind, Option.bind_some,
    Option.pure_def]

/-- The literals behind an operator are read as they have been written. -/
theorem readLiterals_operandText {d : Dialect} {o : Operator} {texts : List String}
    (htakes : Takes o texts) (h : ∀ t ∈ texts, IsSlice d t) {rest : List Char}
    (hrest : AtBoundary rest) :
    readLiterals d o ((operandText o texts).toList ++ rest) = some (texts, rest) := by
  have hone {t : String} (ht : IsSlice d t) :
      (readSlice d ((String.join [t]).toList ++ rest)).map (fun (t, rest) => ([t], rest)) =
        some ([t], rest) := by
    rw [show String.join [t] = t by simp, ht rest hrest]
    rfl
  cases o with
  | compare c =>
    obtain ⟨t, rfl⟩ := htakes
    exact hone (h t List.mem_cons_self)
  | like negated =>
    obtain ⟨t, rfl⟩ := htakes
    exact hone (h t List.mem_cons_self)
  | isNull negated =>
    obtain rfl : texts = ["NULL"] := htakes
    exact hone (h "NULL" List.mem_cons_self)
  | member negated =>
    have hchars : (operandText (.member negated) texts).toList ++ rest =
        '(' :: ((",".intercalate texts).toList ++ ')' :: rest) := by
      simp [operandText, String.toList_append]
    have hmembers := List.forall₂_same.mpr fun t ht => (h t ht).readsAs
    rw [hchars]
    exact readItems_intercalate (consumes_readSlice d) hmembers htakes rest
  | between negated =>
    obtain ⟨low, high, rfl⟩ := htakes
    have hlow := h low (by simp) (" AND ".toList ++ (high.toList ++ rest))
      (atBoundary_cons (Or.inl rfl) _)
    have hhigh := h high (by simp) rest hrest
    have hchars : (operandText (.between negated) [low, high]).toList ++ rest =
        low.toList ++ (" AND ".toList ++ (high.toList ++ rest)) := by
      simp [operandText, String.intercalate_cons_cons, String.toList_append]
    have hdrop : (" AND ".toList ++ (high.toList ++ rest)).dropPrefix? " AND ".toList =
        some (high.toList ++ rest) := List.dropPrefix?_append_of_beq _ (beq_self_eq_true _)
    rw [hchars]
    exact readLiterals_between hlow hdrop hhigh

/-- The words of an operator are read as the operator. Only one of them starts another one, and
there the null value follows. -/
theorem readOperator_keyword {o : Operator} {texts : List String} (htakes : Takes o texts)
    (rest : List Char) :
    readOperator ((" " ++ o.keyword ++ " ").toList ++ ((operandText o texts).toList ++ rest)) =
      some (o, (operandText o texts).toList ++ rest) := by
  -- What follows the words is split once: where a word ends, the text behind it is looked at before
  -- the end of the word is.
  cases o with
  | isNull negated =>
    obtain rfl : texts = ["NULL"] := htakes
    cases negated <;> rfl
  | compare c =>
    generalize (operandText (.compare c) texts).toList ++ rest = behind
    cases behind <;> cases c <;> rfl
  | like negated =>
    generalize (operandText (.like negated) texts).toList ++ rest = behind
    cases behind <;> cases negated <;> rfl
  | member negated =>
    generalize (operandText (.member negated) texts).toList ++ rest = behind
    cases behind <;> cases negated <;> rfl
  | between negated =>
    generalize (operandText (.between negated) texts).toList ++ rest = behind
    cases behind <;> cases negated <;> rfl

/-- A predicate with a column that looks like no other part of a condition, and with literals of the
operator that are read one by one. -/
structure IsPredicate (d : Dialect) (column : String) (o : Operator) (literals : List String) :
    Prop where
  column_ne_empty : column ≠ ""
  bare : ∀ c ∈ column.toList, c ≠ ' ' ∧ c ≠ '('
  takes : Takes o literals
  slices : ∀ t ∈ literals, IsSlice d t

variable {d : Dialect} {column : String} {o : Operator} {literals : List String}

/-- A written predicate is read back up to the boundary behind it. -/
theorem readPredicate_text (h : IsPredicate d column o literals) {rest : List Char}
    (hrest : AtBoundary rest) :
    readPredicate d ((Item.predicate column o literals).text.toList ++ rest) =
      some (.predicate column o literals, rest) := by
  have hchars : (Item.predicate column o literals).text.toList ++ rest =
      column.toList ++ ((" " ++ o.keyword ++ " ").toList ++
        ((operandText o literals).toList ++ rest)) := by
    simp [Item.text, String.toList_append]
  have hcolumn : takeRun (· != ' ') (column.toList ++ ((" " ++ o.keyword ++ " ").toList ++
      ((operandText o literals).toList ++ rest))) =
        some (column.toList, (" " ++ o.keyword ++ " ").toList ++
          ((operandText o literals).toList ++ rest)) := by
    refine takeRun_append (by simpa using h.column_ne_empty) (fun c hc => ?_) fun c hc => ?_
    · simpa using (h.bare c hc).1
    · obtain rfl : c = ' ' := by simpa [String.toList_append, eq_comm] using hc
      rfl
  rw [hchars, readPredicate, hcolumn]
  show (readOperator _ >>= _) = _
  rw [readOperator_keyword h.takes]
  show (readLiterals d o _ >>= _) = _
  rw [readLiterals_operandText h.takes h.slices hrest]
  show some (Item.predicate (String.ofList column.toList) o literals, rest) = _
  rw [String.ofList_toList]

variable (around : List (List Item)) (items : List Item)

/-- Where an operand is due a predicate is read as one, since its column opens no group. -/
theorem readOperand_predicate (h : IsPredicate d column o literals) {rest : List Char}
    (hrest : AtBoundary rest) :
    readOperand d around items ((Item.predicate column o literals).text.toList ++ rest) =
      readConnective d around (items ++ [.predicate column o literals]) rest := by
  have hread := readPredicate_text h hrest
  have hopen : ∀ cs, (Item.predicate column o literals).text.toList ++ rest ≠ '(' :: cs := by
    obtain ⟨c, cs, hcs⟩ :=
      List.exists_cons_of_ne_nil (l := column.toList) (by simpa using h.column_ne_empty)
    have hc := (h.bare c (by simp [hcs])).2
    intro cs' heq
    simp only [Item.text, String.toList_append, hcs, List.cons_append, List.cons.injEq] at heq
    exact hc heq.1
  generalize (Item.predicate column o literals).text.toList ++ rest = cs at hread hopen ⊢
  rw [readOperand]
  · split
    · next h' =>
      rw [hread] at h'
      cases h'
      rfl
    · next h' =>
      rw [hread] at h'
      cases h'
  · exact hopen

/-- A parenthesis where an operand is due opens a group. -/
theorem readOperand_opening (cs : List Char) :
    readOperand d around items ('(' :: cs) = readOperand d (items :: around) [] cs := by
  rw [readOperand]

/-- A parenthesis behind an operand closes the innermost group. -/
theorem readConnective_closing (outer : List Item) (cs : List Char) :
    readConnective d (outer :: around) items (')' :: cs) =
      readConnective d around (outer ++ [.group items]) cs := by
  rw [readConnective]

/-- Behind a connective the next operand is due. -/
theorem readConnective_connective (k : Connective) (rest : List Char) :
    readConnective d around items ((Item.connective k).text.toList ++ rest) =
      readOperand d around (items ++ [.connective k]) rest := by
  cases k with
  | and =>
    show readConnective d around items (' ' :: 'A' :: 'N' :: 'D' :: ' ' :: rest) = _
    rw [readConnective]
  | or =>
    show readConnective d around items (' ' :: 'O' :: 'R' :: ' ' :: rest) = _
    rw [readConnective]

/-- The text may end behind an operand if no group is open. -/
theorem readConnective_nil : readConnective d [] items [] = some items := by
  rw [readConnective, if_pos rfl]

end DialectSql.ConditionReader
