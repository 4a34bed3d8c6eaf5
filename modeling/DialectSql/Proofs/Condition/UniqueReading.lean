import DialectSql.Proofs.ConditionReader
import DialectSql.Proofs.Query.WellFormed

/-!
# What two conditions of one text have in common

The text of a condition does not show how its chains are put together, since only a group is written
with parentheses. `Condition.flat` forgets just that: it lists the predicates and groups of a chain
with the connectives between them, and goes on inside of the groups.

The text is that of the flat form (`render_eq_texts`). For columns that are plain names and plain
literals the text can be read back into the flat form, whatever the text literals contain
(`readOperand_flat`). So the main statement `render_eq_render_iff` says that two such conditions
have one text exactly if they have one flat form.
-/

set_option autoImplicit false

namespace DialectSql

open ConditionReader Text

/-! ## The flat form -/

namespace Condition

/-- The items of a condition, without the way in which its chains are put together. -/
def flat (st : Style) : Condition → Except Error (List Item)
  | leaf p => do
      return [.predicate (st.dialect.identifier p.column) p.operator
        (← st.literals p.operand.literals)]
  | group left k right => do
      return [.group ((← left.flat st) ++ [.connective k] ++ (← right.flat st))]
  | chain left k right => do
      return (← left.flat st) ++ [.connective k] ++ (← right.flat st)

end Condition

/-- An operand of the shape that an operator requires is the texts of its literals. -/
theorem Operand.render_eq_operandText (st : Style) {o : Operator} {v : Operand}
    (h : o.Requires v) : v.render st = (st.literals v.literals).map (operandText o) := by
  have hone (x : Literal) : st.literal x = (st.literals [x]).map String.join := by
    rw [Style.literals, List.mapM_cons]
    cases st.literal x with
    | error e => rfl
    | ok t => exact congrArg Except.ok (by simp)
  cases o with
  | compare c =>
    obtain ⟨x, rfl⟩ := h
    exact hone x
  | like negated =>
    obtain ⟨x, rfl, -⟩ := h
    exact hone x
  | isNull negated =>
    obtain rfl : v = .scalar .null := h
    rfl
  | member negated =>
    obtain ⟨xs, rfl, -⟩ := h
    rw [render, literals]
    cases st.literals xs <;> rfl
  | between negated =>
    obtain ⟨low, high, rfl⟩ := h
    show (st.literal low >>= _) = ([low, high].mapM st.literal).map _
    rw [List.mapM_cons, List.mapM_cons]
    cases st.literal low with
    | error e => rfl
    | ok lowText =>
      cases st.literal high with
      | error e => rfl
      | ok highText => exact congrArg Except.ok (by simp [operandText, String.append_assoc])

namespace Condition

/-- A group is the chain of its two sides between parentheses. -/
theorem render_group (st : Style) (left right : Condition) (k : Connective) :
    (group left k right).render st =
      ((chain left k right).render st).map fun text => "(" ++ text ++ ")" := by
  rw [render, render]
  cases left.render st with
  | error e => rfl
  | ok l =>
    cases right.render st with
    | error e => rfl
    | ok r => exact congrArg Except.ok (by simp [String.append_assoc])

/-- A group is one item, and its items are those of the chain of its two sides. -/
theorem flat_group (st : Style) (left right : Condition) (k : Connective) :
    (group left k right).flat st =
      ((chain left k right).flat st).map fun items => [.group items] := by
  rw [flat, flat]
  cases left.flat st with
  | error e => rfl
  | ok ls => cases right.flat st <;> rfl

/-- A chain is written as the items of its two sides with the connective between them. -/
theorem render_chain_eq_texts {st : Style} {left right : Condition}
    (hl : left.render st = (left.flat st).map Item.texts)
    (hr : right.render st = (right.flat st).map Item.texts) (k : Connective) :
    (chain left k right).render st = ((chain left k right).flat st).map Item.texts := by
  rw [render, flat, hl, hr]
  cases left.flat st with
  | error e => rfl
  | ok ls =>
    cases right.flat st with
    | error e => rfl
    | ok rs =>
      show Except.ok _ = Except.ok (Item.texts (ls ++ [.connective k] ++ rs))
      rw [texts_connected, Item.text]
      simp [String.append_assoc]

/-- A condition has the text of its flat form. -/
theorem render_eq_texts (st : Style) (c : Condition) :
    c.render st = (c.flat st).map Item.texts := by
  induction c with
  | leaf p =>
    rw [render, Predicate.render, flat,
      Operand.render_eq_operandText st (Operator.requires_of_fits p.fits)]
    cases st.literals p.operand.literals with
    | error e => rfl
    | ok texts =>
      show Except.ok _ = Except.ok (Item.texts [.predicate _ p.operator texts])
      rw [texts_singleton, Item.text]
  | group left k right ihl ihr =>
    rw [render_group, flat_group, render_chain_eq_texts ihl ihr]
    cases (chain left k right).flat st with
    | error e => rfl
    | ok items => exact congrArg Except.ok (texts_group items).symm
  | chain left k right ihl ihr => exact render_chain_eq_texts ihl ihr k

/-- Chains may be put together from either end. -/
theorem flat_chain_assoc (st : Style) (a b c : Condition) (k k' : Connective) :
    (chain a k (chain b k' c)).flat st = (chain (chain a k b) k' c).flat st := by
  simp only [flat]
  cases a.flat st with
  | error e => rfl
  | ok as =>
    cases b.flat st with
    | error e => rfl
    | ok bs =>
      cases c.flat st with
      | error e => rfl
      | ok cs => exact congrArg Except.ok (by simp)

end Condition

/-! ## Plain conditions -/

/-- An ASCII letter or digit, an underscore or a point. -/
def isNameChar (c : Char) : Bool := c.isAlphanum || c == '_' || c == '.'

/-- The columns are plain names, and the literals are the null value, truth values, integers and
texts of any kind. -/
structure Condition.IsPlain (c : Condition) : Prop where
  columns : ∀ p ∈ c.predicates, p.column.toList.all isNameChar = true
  literals : ∀ v ∈ c.literals, LiteralReader.isPlain v = true

/-- A plain name has neither a space nor a parenthesis in it, and quoting it adds none. -/
theorem Dialect.bare_identifier (d : Dialect) {name : String} (htrim : trim name = name)
    (h : name.toList.all isNameChar = true) :
    ∀ c ∈ (d.identifier name).toList, c ≠ ' ' ∧ c ≠ '(' := by
  have hname : ∀ c ∈ name.toList, c ≠ ' ' ∧ c ≠ '(' := by
    intro c hc
    have hchar := List.all_eq_true.mp h c hc
    constructor
    · rintro rfl
      cases hchar
    · rintro rfl
      cases hchar
  have hpoint : ∀ c ∈ ".".toList, c ≠ ' ' ∧ c ≠ '(' := by simp
  have hquote : ∀ c ∈ "`".toList, c ≠ ' ' ∧ c ≠ '(' := by simp
  rw [identifier_eq_quoteIdentifier, htrim, quoteIdentifier]
  split
  · rw [forall_mem_intercalate hpoint, List.forall_mem_map]
    rw [← intercalate_components name, forall_mem_intercalate hpoint] at hname
    intro component hcomponent c hc
    rw [delimit] at hc
    split at hc
    · exact hname component hcomponent c hc
    · simp only [String.toList_append, List.mem_append] at hc
      rcases hc with (hdelimiter | hc) | hdelimiter
      · exact hquote c hdelimiter
      · exact hname component hcomponent c hc
      · exact hquote c hdelimiter
  · exact hname

/-- An operand of the shape that an operator requires has the literals that it takes. -/
theorem takes_of_requires {st : Style} {o : Operator} {v : Operand} (h : o.Requires v)
    {texts : List String} (htexts : st.literals v.literals = .ok texts) : Takes o texts := by
  have hlength : texts.length = v.literals.length := length_of_mapM htexts
  cases o with
  | compare c =>
    obtain ⟨x, rfl⟩ := h
    exact List.length_eq_one_iff.mp hlength
  | like negated =>
    obtain ⟨x, rfl, -⟩ := h
    exact List.length_eq_one_iff.mp hlength
  | isNull negated =>
    obtain rfl : v = .scalar .null := h
    cases htexts
    rfl
  | member negated =>
    obtain ⟨xs, rfl, hne⟩ := h
    exact List.length_pos_iff.mp (hlength ▸ List.length_pos_iff.mpr hne)
  | between negated =>
    obtain ⟨low, high, rfl⟩ := h
    exact List.length_eq_two.mp hlength

/-- A plain predicate is written as the reader expects it. -/
theorem isPredicate_of_plain {d : Dialect} {p : Predicate}
    (hcolumn : p.column.toList.all isNameChar = true)
    (hliterals : ∀ v ∈ p.operand.literals, LiteralReader.isPlain v = true) {texts : List String}
    (htexts : (Style.standard d).literals p.operand.literals = .ok texts) :
    IsPredicate d (d.identifier p.column) p.operator texts where
  column_ne_empty := d.identifier_ne_empty (p.column_trimmed.symm ▸ p.column_ne_empty)
  bare := d.bare_identifier p.column_trimmed hcolumn
  takes := takes_of_requires (Operator.requires_of_fits p.fits) htexts
  slices t ht := by
    obtain ⟨v, hv, hvt⟩ := exists_of_mem_mapM htexts ht
    exact isSlice_literal (hliterals v hv) hvt

namespace Condition

variable {d : Dialect} {c c' : Condition}

theorem IsPlain.left {left right : Condition} {k : Connective}
    (h : (chain left k right).IsPlain) : left.IsPlain :=
  ⟨fun p hp => h.columns p (List.mem_append_left _ hp),
    fun v hv => h.literals v (List.mem_append_left _ hv)⟩

theorem IsPlain.right {left right : Condition} {k : Connective}
    (h : (chain left k right).IsPlain) : right.IsPlain :=
  ⟨fun p hp => h.columns p (List.mem_append_right _ hp),
    fun v hv => h.literals v (List.mem_append_right _ hv)⟩

/-- Every plain condition can be written. -/
theorem IsPlain.exists_flat (h : c.IsPlain) (d : Dialect) :
    ∃ items, c.flat (.standard d) = .ok items := by
  induction c with
  | leaf p =>
    obtain ⟨texts, -, htexts, -⟩ := LiteralReader.exists_forall₂_readsAs d h.literals
    have htexts' : (Style.standard d).literals p.operand.literals = .ok texts := htexts
    exact ⟨_, by rw [flat, htexts']; rfl⟩
  | group left k right ihl ihr =>
    obtain ⟨ls, hls⟩ := ihl (IsPlain.left (k := k) ⟨h.columns, h.literals⟩)
    obtain ⟨rs, hrs⟩ := ihr (IsPlain.right (k := k) ⟨h.columns, h.literals⟩)
    exact ⟨[.group (ls ++ [.connective k] ++ rs)], by rw [flat, hls, hrs]; rfl⟩
  | chain left k right ihl ihr =>
    obtain ⟨ls, hls⟩ := ihl h.left
    obtain ⟨rs, hrs⟩ := ihr h.right
    exact ⟨ls ++ [.connective k] ++ rs, by rw [flat, hls, hrs]; rfl⟩

/-- The text of a condition takes the reader from an operand to a connective, with the items of the
condition added to those before. -/
theorem readOperand_flat (h : c.IsPlain) {found : List Item}
    (hflat : c.flat (.standard d) = .ok found) (around : List (List Item)) (items : List Item)
    {rest : List Char} (hrest : AtBoundary rest) :
    readOperand d around items ((Item.texts found).toList ++ rest) =
      readConnective d around (items ++ found) rest := by
  -- What follows is general, since the right side of a chain follows the left one, and so are the
  -- groups around, since a group is read with one more of them.
  induction c generalizing found around items rest with
  | leaf p =>
    obtain ⟨texts, htexts, hfound⟩ := exists_of_bind_eq_ok hflat
    obtain rfl := Except.ok.inj hfound
    rw [texts_singleton]
    have hcolumn := h.columns p List.mem_cons_self
    exact readOperand_predicate around items (isPredicate_of_plain hcolumn h.literals htexts) hrest
  | group left k right ihl ihr =>
    obtain ⟨ls, hls, hright⟩ := exists_of_bind_eq_ok hflat
    obtain ⟨rs, hrs, hfound⟩ := exists_of_bind_eq_ok hright
    obtain rfl := Except.ok.inj hfound
    have hsides : (chain left k right).IsPlain := ⟨h.columns, h.literals⟩
    have hchars : (Item.texts [.group (ls ++ [.connective k] ++ rs)]).toList ++ rest =
        '(' :: ((Item.texts ls).toList ++ ((Item.connective k).text.toList ++
          ((Item.texts rs).toList ++ ')' :: rest))) := by
      rw [texts_group, texts_connected]
      simp [String.toList_append]
    rw [hchars, readOperand_opening, ihl hsides.left hls _ _ (atBoundary_connective k _),
      readConnective_connective, ihr hsides.right hrs _ _ (atBoundary_cons (by simp) rest),
      readConnective_closing, List.nil_append]
  | chain left k right ihl ihr =>
    obtain ⟨ls, hls, hright⟩ := exists_of_bind_eq_ok hflat
    obtain ⟨rs, hrs, hfound⟩ := exists_of_bind_eq_ok hright
    obtain rfl := Except.ok.inj hfound
    have hchars : (Item.texts (ls ++ [.connective k] ++ rs)).toList ++ rest =
        (Item.texts ls).toList ++ ((Item.connective k).text.toList ++
          ((Item.texts rs).toList ++ rest)) := by
      rw [texts_connected]
      simp [String.toList_append]
    rw [hchars, ihl h.left hls _ _ (atBoundary_connective k _), readConnective_connective,
      ihr h.right hrs _ _ hrest, List.append_assoc, List.append_assoc, List.append_assoc]

/-- The text of a plain condition is read back into its flat form. -/
theorem readCondition_flat (h : c.IsPlain) {found : List Item}
    (hflat : c.flat (.standard d) = .ok found) :
    readCondition d (Item.texts found).toList = some found := by
  have hread := readOperand_flat h hflat [] [] atBoundary_nil
  rw [List.append_nil] at hread
  rw [readCondition, hread, List.nil_append, readConnective_nil]

/-- **The text of a condition determines its flat form.** The columns of two conditions are plain
names and their literals plain, with texts of any kind. Each of them is written, and its text is
read back into its flat form. So they have one text exactly if they have one flat form: the same
predicates with the same connectives between them and the same groups around them. In the text of
any condition a group differs from a chain by its parentheses, and how a chain was put together does
not show. -/
theorem render_eq_render_iff (d : Dialect) (c c' : Condition) (hc : c.IsPlain) (hc' : c'.IsPlain) :
    let st := Style.standard d
    (∃ items, c.flat st = .ok items ∧ c.render st = .ok (Item.texts items) ∧
        readCondition d (Item.texts items).toList = some items) ∧
      (c.render st = c'.render st ↔ c.flat st = c'.flat st) ∧
      (∀ a k b, (group a k b).render st = ((chain a k b).render st).map ("(" ++ · ++ ")")) ∧
      ∀ a k b k' e,
        (chain a k (chain b k' e)).render st = (chain (chain a k b) k' e).render st := by
  intro st
  obtain ⟨items, hitems⟩ := hc.exists_flat d
  obtain ⟨items', hitems'⟩ := hc'.exists_flat d
  have hrender : c.render st = .ok (Item.texts items) := by
    rw [render_eq_texts, hitems]
    rfl
  have hrender' : c'.render st = .ok (Item.texts items') := by
    rw [render_eq_texts, hitems']
    rfl
  have hread := readCondition_flat hc hitems
  have hread' := readCondition_flat hc' hitems'
  refine ⟨⟨items, hitems, hrender, hread⟩, ⟨fun hsame => ?_, fun hsame => ?_⟩,
    fun a k b => render_group st a b k, fun a k b k' e => ?_⟩
  · rw [hrender, hrender', Except.ok.injEq] at hsame
    rw [hsame, hread', Option.some.injEq] at hread
    rw [hitems, hitems', hread]
  · rw [render_eq_texts, render_eq_texts, hsame]
  · rw [render_eq_texts, render_eq_texts, flat_chain_assoc]

/-- Two ways to put a chain together, of predicates with texts that look like parts of a
condition. -/
theorem render_eq_render_iff_of_hostile_texts :
    let st := Style.standard .postgresql
    let a : Condition := leaf ⟨"a", .between false, .range (.text "1' AND b = (2") (.int (-3)),
      by decide, by decide, rfl⟩
    let b : Condition := leaf ⟨"t.b", .isNull true, .scalar .null, by decide, by decide, rfl⟩
    let e : Condition := leaf ⟨"e", .member false, .list [.text ") OR (", .bool true],
      by decide, by decide, rfl⟩
    let c := chain a .and (chain b .or (group e .and a))
    let c' := chain (chain a .and b) .or (group e .and a)
    c.IsPlain ∧ c'.IsPlain ∧
      c.render st = .ok ("a BETWEEN '1'' AND b = (2' AND -3 AND t.b IS NOT NULL OR " ++
        "(e IN (') OR (',TRUE) AND a BETWEEN '1'' AND b = (2' AND -3)") ∧
      (∃ items, c.flat st = .ok items ∧ c.render st = .ok (Item.texts items) ∧
        readCondition .postgresql (Item.texts items).toList = some items) ∧
      c.flat st = c'.flat st ∧ c.render st = c'.render st := by
  intro st a b e c c'
  have hc : c.IsPlain := ⟨by decide, by decide⟩
  have hc' : c'.IsPlain := ⟨by decide, by decide⟩
  obtain ⟨hread, hiff, -, hassoc⟩ := render_eq_render_iff .postgresql c c' hc hc'
  have hsame : c.render st = c'.render st := hassoc a .and b .or (group e .and a)
  exact ⟨hc, hc', by decide, hread, hiff.mp hsame, hsame⟩

end Condition

end DialectSql
