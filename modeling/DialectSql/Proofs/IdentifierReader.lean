import DialectSql.Proofs.DelimitedReader
import DialectSql.Proofs.Query.WellFormed

/-!
# Reading identifiers

MySQL reads a name from the text component by component: a component stands between backticks,
where two backticks stand for one, or it is a bare star, and a point after it says that another one
follows. `readName` is this reader; it knows nothing of how names are written.

A name is put between the backticks as it is. So it is read back as its components exactly if there
is no backtick in it (`readName_quoted_iff`). The main statement `names_stay_in_quotes` adds that
the columns of keys, conditions, lists, orders and definitions are written in no other way, and that
what stands behind them never continues the name.
-/

set_option autoImplicit false

namespace DialectSql.IdentifierReader

open Text DelimitedReader

/-! ## The reader -/

/-- One component and what follows it. -/
def readComponent : List Char → Option (List Char × List Char)
  | '`' :: cs => readDelimited '`' cs
  | '*' :: rest => some (['*'], rest)
  | _ => none

/-- A component has at least its delimiters. -/
theorem length_lt_of_readComponent {cs component rest : List Char}
    (h : readComponent cs = some (component, rest)) : rest.length < cs.length := by
  unfold readComponent at h
  split at h
  · have := length_of_readDelimited h
    simp only [List.length_cons]
    omega
  · cases h
    exact Nat.lt_succ_self _
  · cases h

/-- The components of a name, with points between them, and what follows the name. -/
def readName (cs : List Char) : Option (List String × List Char) :=
  match _h : readComponent cs with
  | none => none
  | some (component, '.' :: rest) =>
      (readName rest).map (Prod.map (String.ofList component :: ·) id)
  | some (component, rest) => some ([String.ofList component], rest)
termination_by cs.length
decreasing_by
  -- A component takes at least one character, so less is left behind it and its point.
  have := length_lt_of_readComponent _h
  simp only [List.length_cons] at this
  omega

/-- What follows continues neither the name nor its last component. -/
def AtNameEnd (rest : List Char) : Prop :=
  rest.head? ≠ some '`' ∧ rest.head? ≠ some '.'

instance (rest : List Char) : Decidable (AtNameEnd rest) :=
  inferInstanceAs (Decidable (_ ∧ _))

/-- A point goes on with the name. -/
theorem readName_of_point {cs component rest : List Char}
    (h : readComponent cs = some (component, '.' :: rest)) :
    readName cs = (readName rest).map (Prod.map (String.ofList component :: ·) id) := by
  rw [readName]
  split
  · next h' => cases h.symm.trans h'
  · next h' =>
    cases h.symm.trans h'
    rfl
  · next hpoint h' =>
    cases h.symm.trans h'
    exact absurd rfl (hpoint _)

/-- Where a name ends, the component that has been read is its last one. -/
theorem readName_of_end {cs component rest : List Char}
    (h : readComponent cs = some (component, rest)) (hrest : AtNameEnd rest) :
    readName cs = some ([String.ofList component], rest) := by
  rw [readName]
  split
  · next h' => cases h.symm.trans h'
  · next h' =>
    cases h.symm.trans h'
    exact absurd rfl hrest.2
  · next h' =>
    cases h.symm.trans h'
    rfl

/-! ## Names without a backtick -/

/-- A delimited component without a backtick is read back. -/
theorem readComponent_delimit {component : String} (h : '`' ∉ component.toList)
    {rest : List Char} (hrest : rest.head? ≠ some '`') :
    readComponent ((Dialect.delimit component).toList ++ rest) =
      some (component.toList, rest) := by
  unfold Dialect.delimit
  split
  · next hstar =>
    subst hstar
    rfl
  · have hchars : ("`" ++ component ++ "`").toList ++ rest =
        '`' :: (component.toList ++ '`' :: rest) := by
      simp [String.toList_append]
    rw [hchars, readComponent, readDelimited_append h hrest]

/-- Delimited components with points between them are read back, if none has a backtick. -/
theorem readName_delimited {components : List String} (hne : components ≠ [])
    (h : ∀ component ∈ components, '`' ∉ component.toList) {rest : List Char}
    (hrest : AtNameEnd rest) :
    readName ((".".intercalate (components.map Dialect.delimit)).toList ++ rest) =
      some (components, rest) := by
  induction components with
  | nil => exact absurd rfl hne
  | cons component components ih =>
    obtain ⟨hcomponent, hcomponents⟩ := List.forall_mem_cons.mp h
    cases components with
    | nil =>
      rw [List.map_singleton, String.intercalate_singleton,
        readName_of_end (readComponent_delimit hcomponent hrest.1) hrest, String.ofList_toList]
    | cons next components =>
      have hchars : (".".intercalate ((component :: next :: components).map
          Dialect.delimit)).toList ++ rest =
            (Dialect.delimit component).toList ++ '.' ::
              ((".".intercalate ((next :: components).map Dialect.delimit)).toList ++ rest) := by
        simp [String.intercalate_cons_cons, String.toList_append]
      rw [hchars, readName_of_point (readComponent_delimit hcomponent (by simp)),
        ih (List.cons_ne_nil _ _) hcomponents, String.ofList_toList]
      rfl

/-! ## Names with a backtick -/

/-- Delimiting makes a component longer by two characters at most. -/
theorem length_delimit_le (component : String) :
    (Dialect.delimit component).length ≤ component.length + 2 := by
  have htick : "`".length = 1 := rfl
  unfold Dialect.delimit
  split
  · omega
  · rw [String.length_append, String.length_append, htick]
    omega

/-- A component that is read took the characters that it is written with, and one more for each
backtick in it. -/
theorem length_of_readComponent {cs component rest : List Char}
    (h : readComponent cs = some (component, rest)) :
    (Dialect.delimit (String.ofList component)).length + component.count '`' + rest.length ≤
      cs.length := by
  unfold readComponent at h
  split at h
  · have hlength := length_of_readDelimited h
    have hdelimit := length_delimit_le (String.ofList component)
    rw [String.length_ofList] at hdelimit
    simp only [List.length_cons]
    omega
  · cases h
    have hstar : (Dialect.delimit (String.ofList ['*'])).length + ['*'].count '`' = 1 := by decide
    rw [hstar, List.length_cons]
    omega
  · cases h

/-- So did a name that is read: a name takes more characters to read than to write if there is a
backtick in it. -/
theorem length_of_readName {cs rest : List Char} {components : List String}
    (h : readName cs = some (components, rest)) :
    (".".intercalate (components.map Dialect.delimit)).length +
      (".".intercalate components).toList.count '`' + rest.length ≤ cs.length := by
  fun_induction readName cs generalizing components rest with
  | case1 => cases h
  | case2 cs component rest' hread ih =>
    obtain ⟨⟨components', rest''⟩, hname, hmap⟩ := Option.map_eq_some_iff.mp h
    cases hmap
    have hcomponent := length_of_readComponent hread
    have hcomponents := ih hname
    -- The point between two components is one character both where it is read and where it is
    -- written; behind a last component there is none.
    cases components' with
    | nil =>
      have hrest := Nat.le_of_add_left_le hcomponents
      simp only [id, List.map_singleton, String.intercalate_singleton, String.toList_ofList,
        List.length_cons] at hcomponent ⊢
      omega
    | cons next components' =>
      have hpoint : ".".length = 1 := rfl
      have hcount : ".".toList.count '`' = 0 := rfl
      simp only [id, List.map_cons, String.intercalate_cons_cons, String.length_append,
        String.toList_append, List.count_append, String.toList_ofList, List.length_cons]
        at hcomponent hcomponents ⊢
      omega
  | case3 cs component rest' hpoint hread =>
    cases h
    rw [List.map_singleton, String.intercalate_singleton, String.intercalate_singleton,
      String.toList_ofList]
    exact length_of_readComponent hread

theorem not_mem_component {name component : String} (h : '`' ∉ name.toList)
    (hcomponent : component ∈ Dialect.components name) : '`' ∉ component.toList := by
  have hpoint : ∀ c ∈ ".".toList, c ≠ '`' := by simp
  have hname : ∀ c ∈ name.toList, c ≠ '`' := fun c hc heq => h (heq ▸ hc)
  rw [← intercalate_components name, forall_mem_intercalate hpoint] at hname
  exact fun htick => hname component hcomponent '`' htick rfl

/-- A name is read back exactly if there is no backtick in it. -/
theorem readName_quoted_iff {d : Dialect} (hd : d.isMySQL = true) (name : String)
    {rest : List Char} (hrest : AtNameEnd rest) :
    readName ((d.quoteIdentifier name).toList ++ rest) = some (Dialect.components name, rest) ↔
      '`' ∉ name.toList := by
  rw [Dialect.quoteIdentifier, if_pos hd]
  constructor
  · -- The text has just the characters that its components are written with.
    intro hread
    have hlength := length_of_readName hread
    rw [intercalate_components, List.length_append, String.length_toList] at hlength
    exact List.count_eq_zero.mp (by omega)
  · intro hname
    exact readName_delimited (Dialect.components_ne_nil name)
      (fun component hcomponent => not_mem_component hname hcomponent) hrest

/-! ## Where names are written -/

/-- The text starts with a character that continues no name. -/
def endsName (s : String) : Bool := s.toList.head?.any fun c => c != '`' && c != '.'

/-- A name ends in front of any text that starts as these do. -/
theorem atNameEnd_append {s : String} (h : endsName s = true) (rest : List Char) :
    AtNameEnd (s.toList ++ rest) := by
  unfold endsName at h
  unfold AtNameEnd
  cases hs : s.toList with
  | nil => simp [hs] at h
  | cons c cs => simpa [hs] using h

/-- The name stands in the text as an identifier, with nothing behind it that continues it. -/
def StandsIn (d : Dialect) (name text : String) : Prop :=
  ∃ before behind, text = before ++ d.identifier name ++ behind ∧ AtNameEnd behind.toList

namespace StandsIn

variable {d : Dialect} {name text : String}

theorem alone (d : Dialect) (name : String) : StandsIn d name (d.identifier name) :=
  ⟨"", "", by simp, by decide⟩

/-- A name that stands in a text stands in it behind anything else. -/
theorem append_left (before : String) (h : StandsIn d name text) :
    StandsIn d name (before ++ text) := by
  obtain ⟨before', behind, rfl, hbehind⟩ := h
  exact ⟨before ++ before', behind, by simp only [String.append_assoc], hbehind⟩

/-- A separator behind the text does not continue the name, even if the text ends with it. -/
theorem append_right (h : StandsIn d name text) {separator : String}
    (hseparator : endsName separator = true) (behind : String) :
    StandsIn d name (text ++ separator ++ behind) := by
  obtain ⟨before, behind', rfl, hbehind⟩ := h
  refine ⟨before, behind' ++ separator ++ behind, by simp only [String.append_assoc], ?_⟩
  rw [String.append_assoc, String.toList_append]
  cases hchars : behind'.toList with
  | nil =>
    rw [List.nil_append, String.toList_append]
    exact atNameEnd_append hseparator _
  | cons c cs =>
    rw [hchars] at hbehind
    exact hbehind

/-- A name that stands in an item stands in the list, if a name can end in front of the
separator. -/
theorem intercalate {item : String} (h : StandsIn d name item) {separator : String}
    (hseparator : endsName separator = true) {items : List String} (hitem : item ∈ items) :
    StandsIn d name (separator.intercalate items) := by
  induction items with
  | nil => exact absurd hitem List.not_mem_nil
  | cons first items ih =>
    by_cases hne : items = []
    · subst hne
      obtain rfl := List.mem_singleton.mp hitem
      rwa [String.intercalate_singleton]
    · rw [String.intercalate_cons_of_ne_nil hne]
      rcases List.mem_cons.mp hitem with rfl | hitem
      · exact h.append_right hseparator _
      · exact (ih hitem).append_left _

end StandsIn

/-- The columns of a key: the arguments, if there is a function. -/
def keyColumns : KeyBase → List String
  | .column name => [name]
  | .call _ arguments => arguments

/-- A column, as the caller gave it, and a text of a statement in which it is named: a key, a
condition, a list of shared columns or of groups, an order, or the definition of the column. -/
inductive Names (st : Style) : String → String → Prop where
  | key {expression name : String} {k : Key} (hk : Key.parse expression = .ok k)
      (hname : name ∈ keyColumns k.base) : Names st name (k.render st.dialect)
  | condition {c : Condition} {text : String} {p : Predicate} (htext : c.render st = .ok text)
      (hp : p ∈ c.predicates) : Names st p.column text
  | usingColumns {columns items : List String} {name : String}
      (hitems : st.dialect.columnList .usingColumns columns = .ok items) (hname : name ∈ columns) :
      Names st name (listed "," items)
  | groupBy {columns items : List String} {name : String}
      (hitems : st.dialect.columnList .groupBy columns = .ok items) (hname : name ∈ columns) :
      Names st name (",".intercalate items)
  | orderBy {columns directions items : List String} {name : String}
      (hitems : st.dialect.orderItems columns directions = .ok items) (hname : name ∈ columns) :
      Names st name (", ".intercalate items)
  | definition {col : Column} {text : String} (htext : col.render st = .ok text) :
      Names st col.name text

/-- A column of a key stands in its text, be it alone, with an alias or an argument. -/
theorem standsIn_key (d : Dialect) {k : Key} {name : String} (hname : name ∈ keyColumns k.base) :
    StandsIn d name (k.render d) := by
  have hbase : StandsIn d name (k.base.render d) := by
    cases hk : k.base with
    | column column =>
      rw [hk] at hname
      obtain rfl := List.mem_singleton.mp hname
      exact .alone d name
    | call function arguments =>
      rw [hk] at hname
      have hcomma : endsName "," = true := by decide
      have hclose : endsName ")" = true := by decide
      have hlist := (StandsIn.alone d name).intercalate hcomma
        (List.mem_map_of_mem (f := d.identifier) hname)
      have hcall := (hlist.append_left (function ++ "(")).append_right hclose ""
      rwa [String.append_empty] at hcall
  unfold Key.render
  split
  · exact hbase
  · exact hbase.append_right (by decide) _

/-- The column of every predicate of a condition stands in its text, since a space or a parenthesis
stands behind the side that has it. -/
theorem standsIn_condition {st : Style} {c : Condition} {text : String} {p : Predicate}
    (htext : c.render st = .ok text) (hp : p ∈ c.predicates) :
    StandsIn st.dialect p.column text := by
  have hspace : endsName " " = true := by decide
  have hclose : endsName ")" = true := by decide
  induction c generalizing text with
  | leaf p' =>
    obtain rfl := List.mem_singleton.mp hp
    obtain ⟨operand, -, hrender⟩ := exists_of_bind_eq_ok htext
    rw [← Except.ok.inj hrender]
    have := (StandsIn.alone st.dialect p.column).append_right hspace
      (p.operator.keyword ++ " " ++ operand)
    simpa only [String.append_assoc] using this
  | group left k right ihl ihr =>
    obtain ⟨l, hl, hrest⟩ := exists_of_bind_eq_ok htext
    obtain ⟨r, hr, hrender⟩ := exists_of_bind_eq_ok hrest
    rw [← Except.ok.inj hrender]
    rcases List.mem_append.mp hp with hp | hp
    · have := ((ihl hl hp).append_left "(").append_right hspace
        (k.keyword ++ " " ++ r ++ ")")
      simpa only [String.append_assoc] using this
    · have := ((ihr hr hp).append_right hclose "").append_left
        ("(" ++ l ++ " " ++ k.keyword ++ " ")
      simpa only [String.append_assoc, String.append_empty] using this
  | chain left k right ihl ihr =>
    obtain ⟨l, hl, hrest⟩ := exists_of_bind_eq_ok htext
    obtain ⟨r, hr, hrender⟩ := exists_of_bind_eq_ok hrest
    rw [← Except.ok.inj hrender]
    rcases List.mem_append.mp hp with hp | hp
    · have := (ihl hl hp).append_right hspace (k.keyword ++ " " ++ r)
      simpa only [String.append_assoc] using this
    · exact (ihr hr hp).append_left _

theorem standsIn_columnList {d : Dialect} {clause : Clause} {columns items : List String}
    {name : String} (hitems : d.columnList clause columns = .ok items) (hname : name ∈ columns) :
    StandsIn d name (",".intercalate items) := by
  obtain rfl := Dialect.eq_map_of_columnList hitems
  exact (StandsIn.alone d name).intercalate (by decide) (List.mem_map_of_mem hname)

/-- The column of an item of an order stands in it, with a direction or without. -/
theorem standsIn_orderItem (d : Dialect) (name : String) (direction : Option Direction) :
    StandsIn d name (d.orderItem name direction) := by
  have hspace : endsName " " = true := by decide
  have hcollated : StandsIn d name
      (d.identifier name ++ if d = .sqlite then " COLLATE NOCASE" else "") := by
    split
    · have := (StandsIn.alone d name).append_right hspace "COLLATE NOCASE"
      rwa [String.append_assoc] at this
    · rw [String.append_empty]
      exact .alone d name
  unfold Dialect.orderItem
  cases direction with
  | none =>
    rw [String.append_empty]
    exact hcollated
  | some direction =>
    rw [← String.append_assoc]
    exact hcollated.append_right hspace _

/-- Every column of an order stands in its text. -/
theorem standsIn_orderItems {d : Dialect} {columns directions items : List String} {name : String}
    (hitems : d.orderItems columns directions = .ok items) (hname : name ∈ columns) :
    StandsIn d name (", ".intercalate items) := by
  rw [Dialect.orderItems_eq_map] at hitems
  obtain ⟨read, hread, rfl⟩ := exists_of_map_eq_ok hitems
  rw [← map_fst_of_readOrder hread] at hname
  obtain ⟨⟨name, direction⟩, hmem, rfl⟩ := List.mem_map.mp hname
  have hitem := List.mem_map_of_mem (f := Function.uncurry d.orderItem) hmem
  rw [Function.uncurry_apply_pair] at hitem
  exact (standsIn_orderItem d name direction).intercalate (by decide) hitem

theorem standsIn_definition {st : Style} {col : Column} {text : String}
    (htext : col.render st = .ok text) : StandsIn st.dialect col.name text := by
  obtain ⟨-, -, hparts⟩ := exists_of_bind_eq_ok htext
  obtain ⟨defaultValue, -, hrender⟩ := exists_of_bind_eq_ok hparts
  have hname : st.dialect.identifier col.name = st.dialect.quoteIdentifier col.name := by
    rw [Dialect.identifier_eq_quoteIdentifier, col.name_trimmed]
  rw [← Except.ok.inj hrender, ← hname]
  exact (StandsIn.alone st.dialect col.name).intercalate (by decide) (by simp)

/-- A name stands as an identifier wherever a statement names a column. -/
theorem Names.standsIn {st : Style} {name text : String} (h : Names st name text) :
    StandsIn st.dialect name text := by
  cases h with
  | key hk hname => exact standsIn_key st.dialect hname
  | condition htext hp => exact standsIn_condition htext hp
  | usingColumns hitems hname =>
    rw [listed_eq_intercalate (Dialect.columnList_ne_empty hitems)]
    exact standsIn_columnList hitems hname
  | groupBy hitems hname => exact standsIn_columnList hitems hname
  | orderBy hitems hname => exact standsIn_orderItems hitems hname
  | definition htext => exact standsIn_definition htext

/-- **No column leaves its quotes unless there is a backtick in its name.** In MySQL a name is read
back as its components exactly if it has no backtick, whatever follows it. Wherever a statement
names a column, it writes the quoted name, and from there such a name is read as its components and
the reader stops right behind it. -/
theorem names_stay_in_quotes {st : Style} (hd : st.dialect.isMySQL = true) :
    (∀ name rest, AtNameEnd rest →
      (readName ((st.dialect.quoteIdentifier name).toList ++ rest) =
          some (Dialect.components name, rest) ↔
        '`' ∉ name.toList)) ∧
    ∀ name text, Names st name text → '`' ∉ name.toList →
      ∃ before behind, text = before ++ st.dialect.quoteIdentifier (trim name) ++ behind ∧
        ∀ rest, AtNameEnd rest →
          readName ((st.dialect.quoteIdentifier (trim name) ++ behind).toList ++ rest) =
            some (Dialect.components (trim name), behind.toList ++ rest) := by
  refine ⟨fun name rest hrest => readName_quoted_iff hd name hrest, ?_⟩
  intro name text hnames hname
  obtain ⟨before, behind, htext, hbehind⟩ := hnames.standsIn
  rw [Dialect.identifier_eq_quoteIdentifier] at htext
  refine ⟨before, behind, htext, fun rest hrest => ?_⟩
  have hend : AtNameEnd (behind.toList ++ rest) := by
    cases hchars : behind.toList with
    | nil => exact hrest
    | cons c cs =>
      rw [hchars] at hbehind
      exact hbehind
  have htrim : '`' ∉ (trim name).toList := by
    rw [toList_trim]
    exact fun htick => hname ((isInfix_trimChars name.toList).subset htick)
  rw [String.toList_append, List.append_assoc]
  exact (readName_quoted_iff hd (trim name) hend).mpr htrim

/-- A name with quotes and a comment in it, alone and in an order. -/
theorem names_stay_in_quotes_in_order :
    let st := Style.standard .mysqlPdo
    st.dialect.isMySQL = true ∧
      readName "`u`.`n'; --`.*".toList = some (["u", "n'; --", "*"], []) ∧
      ∃ before behind, "`id`, `u`.`n'; --` DESC" = before ++ "`u`.`n'; --`" ++ behind ∧
        readName ("`u`.`n'; --`" ++ behind).toList = some (["u", "n'; --"], behind.toList) := by
  intro st
  have hd : st.dialect.isMySQL = true := by decide
  obtain ⟨hread, hplaces⟩ := names_stay_in_quotes hd
  have hquoted : st.dialect.quoteIdentifier "u.n'; --.*" = "`u`.`n'; --`.*" := by decide
  have hcomponents : Dialect.components "u.n'; --.*" = ["u", "n'; --", "*"] := by decide
  have halone := (hread "u.n'; --.*" [] (by decide)).mpr (by decide)
  rw [hquoted, hcomponents, List.append_nil] at halone
  have hitems : st.dialect.orderItems ["id", " u.n'; --"] ["", "desc"] =
      .ok ["`id`", "`u`.`n'; --` DESC"] := by decide
  have horder : Names st " u.n'; --" (", ".intercalate ["`id`", "`u`.`n'; --` DESC"]) :=
    .orderBy hitems (by decide)
  have htext : ", ".intercalate ["`id`", "`u`.`n'; --` DESC"] = "`id`, `u`.`n'; --` DESC" := by
    decide
  have hquoted' : st.dialect.quoteIdentifier (trim " u.n'; --") = "`u`.`n'; --`" := by decide
  have hcomponents' : Dialect.components (trim " u.n'; --") = ["u", "n'; --"] := by decide
  obtain ⟨before, behind, hbefore, hbehind⟩ := hplaces _ _ horder (by decide)
  have hstop := hbehind [] (by decide)
  rw [hquoted', hcomponents', List.append_nil, List.append_nil] at hstop
  rw [htext, hquoted'] at hbefore
  exact ⟨hd, halone, before, behind, hbefore, hstop⟩

/-- A backtick in a name closes its quotes: the rest of the name stands behind them. -/
theorem backtick_leaves_quotes :
    let quoted := Dialect.mysqli.quoteIdentifier "a`b"
    readName quoted.toList = some (["a"], "b`".toList) ∧
      readName quoted.toList ≠ some (Dialect.components "a`b", []) := by
  intro quoted
  have hcomponent : readComponent quoted.toList = some (['a'], "b`".toList) := by decide
  have hread : readName quoted.toList = some (["a"], "b`".toList) :=
    readName_of_end hcomponent (by decide)
  refine ⟨hread, ?_⟩
  rw [hread]
  decide

end DialectSql.IdentifierReader
