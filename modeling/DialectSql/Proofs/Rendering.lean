import DialectSql.Proofs.Query.TablePrefix
import DialectSql.Proofs.Statement.Naming

/-!
# Keys, columns and literals as they are written

What is given as text is read before it is written. Reading looks for faults and does not depend on
the dialect; writing always succeeds. For keys, for lists of columns and for the columns of an order
there is one equation that separates the two (`keys_eq_map`, `columnList_eq_map`,
`orderItems_eq_map`).

Nothing that has been read is written as an empty text, and no literal is empty, whatever the
escaper. A key is written as the wildcard only if it is the wildcard (`render_eq_wildcard_iff`).
-/

set_option autoImplicit false

namespace DialectSql

open Text

/-! ## Reading and writing -/

/-- What is read element by element and then written is first read as a whole. -/
theorem mapM_map {α β γ : Type} (read : α → Except Error β) (write : β → γ) (xs : List α) :
    xs.mapM (fun x => (read x).map write) = (xs.mapM read).map (List.map write) := by
  induction xs with
  | nil => rfl
  | cons x xs ih =>
    rw [List.mapM_cons, List.mapM_cons, ih]
    cases read x with
    | error e => rfl
    | ok y => cases xs.mapM read <;> rfl

/-- The key of an expression; a fault is reported with the expression as it was given. -/
def readKey (expression : String) : Except Error Key :=
  (Key.parse expression).mapError (.invalidKey expression)

/-- Columns of which there must be some, none of them blank. -/
def readColumns (clause : Clause) (columns : List String) : Except Error (List String) :=
  if columns = [] ∨ columns.any (trim · = "") then .error (.invalidClause clause .emptyColumnList)
  else .ok columns

/-- The direction that is left for a column, if there is one. -/
def readDirection : Option String → Except Error (Option Direction)
  | some text => Direction.parse text
  | none => .ok none

/-- Columns, each with its direction. A column is looked at before its direction, and both before
the next column. -/
def readOrderFrom : List String → List String → Except Error (List (String × Option Direction))
  | [], _ => .ok []
  | column :: columns, directions =>
      if trim column = "" then .error (.invalidClause .orderBy .emptyColumn)
      else (readDirection directions.head?).bind fun direction =>
        (readOrderFrom columns directions.tail).map ((column, direction) :: ·)

/-- Columns with directions, of which there may be fewer but not more. -/
def readOrder (columns directions : List String) :
    Except Error (List (String × Option Direction)) :=
  if columns = [] then .error (.invalidClause .orderBy .emptyColumnList)
  else if columns.length < directions.length then
    .error (.invalidClause .orderBy (.tooManyDirections directions.length columns.length))
  else readOrderFrom columns directions

namespace Dialect

/-- Keys are read without a look at the dialect, and then written in it. -/
theorem keys_eq_map (d : Dialect) (expressions : List String) :
    d.keys expressions = (expressions.mapM readKey).map (List.map (Key.render d)) := by
  rw [← mapM_map]
  refine congrArg (List.mapM · expressions) (funext fun expression => ?_)
  rw [key, readKey]
  cases Key.parse expression <;> rfl

/-- Columns are checked without a look at the dialect, and then written in it. -/
theorem columnList_eq_map (d : Dialect) (clause : Clause) (columns : List String) :
    d.columnList clause columns = (readColumns clause columns).map (List.map d.identifier) := by
  rw [columnList, readColumns]
  split <;> rfl

/-- Columns that are accepted are written as identifiers. -/
theorem eq_map_of_columnList {d : Dialect} {clause : Clause} {columns items : List String}
    (h : d.columnList clause columns = .ok items) : items = columns.map d.identifier := by
  rw [columnList] at h
  split at h
  · cases h
  · exact (Except.ok.inj h).symm

/-- The first item of an order: its column is checked, then its direction, then the items behind
it. -/
theorem orderItemsFrom_cons (d : Dialect) (column : String) (columns directions : List String) :
    d.orderItemsFrom (column :: columns) directions =
      if trim column = "" then .error (.invalidClause .orderBy .emptyColumn)
      else (readDirection directions.head?).bind fun direction =>
        (d.orderItemsFrom columns directions.tail).map (d.orderItem column direction :: ·) := by
  rw [orderItemsFrom]
  by_cases h : trim column = ""
  · rw [if_pos h, if_pos h]
    cases directions.head? <;> rfl
  · rw [if_neg h, if_neg h]
    cases directions.head? <;> rfl

/-- The items of an order are read, column and direction by turns, and then written. -/
theorem orderItemsFrom_eq_map (d : Dialect) (columns directions : List String) :
    d.orderItemsFrom columns directions =
      (readOrderFrom columns directions).map (List.map (Function.uncurry d.orderItem)) := by
  induction columns generalizing directions with
  | nil => rfl
  | cons column columns ih =>
    rw [orderItemsFrom_cons, readOrderFrom, ih]
    split
    · rfl
    · cases readDirection directions.head? with
      | error e => rfl
      | ok direction => cases readOrderFrom columns directions.tail <;> rfl

/-- An order is read without a look at the dialect, and then written in it. -/
theorem orderItems_eq_map (d : Dialect) (columns directions : List String) :
    d.orderItems columns directions =
      (readOrder columns directions).map (List.map (Function.uncurry d.orderItem)) := by
  unfold orderItems readOrder
  by_cases hnone : columns = []
  · simp only [if_pos hnone]
    rfl
  · by_cases hmany : columns.length < directions.length
    · simp only [if_neg hnone, if_pos hmany]
      rfl
    · simp only [if_neg hnone, if_neg hmany]
      exact d.orderItemsFrom_eq_map columns directions

end Dialect

/-! ## What has been read -/

/-- The base of a key comes from a part of the expression that is not blank. -/
theorem Key.exists_base_of_parse {expression : String} {k : Key}
    (h : Key.parse expression = .ok k) :
    ∃ base, trim base ≠ "" ∧ KeyBase.parse base = .ok k.base := by
  unfold Key.parse at h
  split at h
  · cases h
  · obtain ⟨⟨text, label⟩, -, hbase⟩ := exists_of_bind_eq_ok h
    dsimp only at hbase
    split at hbase
    · cases hbase
    · next base hnonblank =>
      obtain ⟨b, hb, hk⟩ := exists_of_bind_eq_ok hbase
      obtain ⟨rfl, hne⟩ := nonblank?_eq_some_iff.mp hnonblank
      cases hk
      exact ⟨trim text, by rwa [trim_trim], hb⟩

/-- The name of a column in a key is not blank. -/
theorem Key.trim_ne_empty_of_parse {expression name : String} {k : Key}
    (h : Key.parse expression = .ok k) (hname : k.base = .column name) : trim name ≠ "" := by
  obtain ⟨base, hne, hbase⟩ := exists_base_of_parse h
  rw [hname] at hbase
  unfold KeyBase.parse at hbase
  split at hbase
  · split at hbase <;> cases hbase
  · cases hbase
    exact hne

theorem parse_of_readKey {expression : String} {k : Key} (h : readKey expression = .ok k) :
    Key.parse expression = .ok k := by
  unfold readKey at h
  cases hk : Key.parse expression with
  | error fault =>
    rw [hk] at h
    cases h
  | ok k' =>
    rw [hk] at h
    cases h
    rfl

/-- No column that is accepted is blank. -/
theorem trim_ne_empty_of_readColumns {clause : Clause} {columns items : List String}
    (h : readColumns clause columns = .ok items) : ∀ column ∈ items, trim column ≠ "" := by
  unfold readColumns at h
  split at h
  · cases h
  · next hblank =>
    cases h
    intro column hcolumn hempty
    exact hblank (Or.inr (List.any_eq_true.mpr ⟨column, hcolumn, by simpa using hempty⟩))

/-- No column among the items of an order is blank. -/
theorem trim_ne_empty_of_readOrderFrom {columns directions : List String}
    {items : List (String × Option Direction)} (h : readOrderFrom columns directions = .ok items) :
    ∀ item ∈ items, trim item.1 ≠ "" := by
  induction columns generalizing directions items with
  | nil =>
    cases h
    simp
  | cons column columns ih =>
    unfold readOrderFrom at h
    split at h
    · cases h
    · next hcolumn =>
      obtain ⟨direction, -, hrest⟩ := exists_of_bind_eq_ok h
      obtain ⟨rest, hrest', rfl⟩ := exists_of_map_eq_ok hrest
      exact List.forall_mem_cons.mpr ⟨hcolumn, ih hrest'⟩

theorem trim_ne_empty_of_readOrder {columns directions : List String}
    {items : List (String × Option Direction)} (h : readOrder columns directions = .ok items) :
    ∀ item ∈ items, trim item.1 ≠ "" := by
  unfold readOrder at h
  split at h
  · cases h
  · split at h
    · cases h
    · exact trim_ne_empty_of_readOrderFrom h

/-- The items of an order have the given columns in the given order. -/
theorem map_fst_of_readOrderFrom {columns directions : List String}
    {items : List (String × Option Direction)} (h : readOrderFrom columns directions = .ok items) :
    items.map Prod.fst = columns := by
  induction columns generalizing directions items with
  | nil =>
    cases h
    rfl
  | cons column columns ih =>
    unfold readOrderFrom at h
    split at h
    · cases h
    · obtain ⟨direction, -, hrest⟩ := exists_of_bind_eq_ok h
      obtain ⟨rest, hrest', rfl⟩ := exists_of_map_eq_ok hrest
      rw [List.map_cons, ih hrest']

theorem map_fst_of_readOrder {columns directions : List String}
    {items : List (String × Option Direction)} (h : readOrder columns directions = .ok items) :
    items.map Prod.fst = columns := by
  unfold readOrder at h
  split at h
  · cases h
  · split at h
    · cases h
    · exact map_fst_of_readOrderFrom h

/-! ## Characters of texts put together -/

/-- What holds of the characters of a separator holds of those of the whole if it does of those of
every item. -/
theorem forall_mem_intercalate {p : Char → Prop} {separator : String}
    (hseparator : ∀ c ∈ separator.toList, p c) (items : List String) :
    (∀ c ∈ (separator.intercalate items).toList, p c) ↔
      ∀ item ∈ items, ∀ c ∈ item.toList, p c := by
  induction items with
  | nil => simp
  | cons item items ih =>
    by_cases hne : items = []
    · simp [hne]
    · rw [String.intercalate_cons_of_ne_nil hne, List.forall_mem_cons, ← ih]
      simp only [String.toList_append, List.mem_append]
      constructor
      · intro h
        exact ⟨fun c hc => h c (Or.inl (Or.inl hc)), fun c hc => h c (Or.inr hc)⟩
      · rintro ⟨hitem, hitems⟩ c ((hc | hc) | hc)
        · exact hitem c hc
        · exact hseparator c hc
        · exact hitems c hc

/-! ## Texts that are not empty -/

/-- A list of items that are not empty has a text that is not empty. -/
theorem intercalate_ne_empty (separator : String) {items : List String} (hne : items ≠ [])
    (h : ∀ s ∈ items, s ≠ "") : separator.intercalate items ≠ "" := by
  cases items with
  | nil => exact absurd rfl hne
  | cons first rest =>
    have hfirst := h first List.mem_cons_self
    by_cases hrest : rest = []
    · rw [hrest, String.intercalate_singleton]
      exact hfirst
    · rw [String.intercalate_cons_of_ne_nil hrest]
      simp [String.append_eq_empty_iff, hfirst]

namespace Dialect

theorem components_ne_nil (name : String) : components name ≠ [] := by
  simp [components, List.splitOn_ne_nil]

theorem delimit_ne_empty (component : String) : delimit component ≠ "" := by
  unfold delimit
  split
  · next h => simp [h]
  · simp [String.append_eq_empty_iff]

/-- A name that is not blank has a text that is not empty. -/
theorem identifier_ne_empty (d : Dialect) {name : String} (h : trim name ≠ "") :
    d.identifier name ≠ "" := by
  rw [identifier_eq_quoteIdentifier, quoteIdentifier]
  split
  · refine intercalate_ne_empty "." (by simp [components_ne_nil]) fun t ht => ?_
    obtain ⟨component, -, rfl⟩ := List.mem_map.mp ht
    exact delimit_ne_empty component
  · exact h

theorem columnList_ne_empty {d : Dialect} {clause : Clause} {columns items : List String}
    (h : d.columnList clause columns = .ok items) : ∀ item ∈ items, item ≠ "" := by
  rw [columnList_eq_map] at h
  obtain ⟨read, hread, rfl⟩ := exists_of_map_eq_ok h
  intro item hitem
  obtain ⟨column, hcolumn, rfl⟩ := List.mem_map.mp hitem
  exact d.identifier_ne_empty (trim_ne_empty_of_readColumns hread column hcolumn)

theorem orderItems_ne_empty {d : Dialect} {columns directions items : List String}
    (h : d.orderItems columns directions = .ok items) : ∀ item ∈ items, item ≠ "" := by
  rw [orderItems_eq_map] at h
  obtain ⟨read, hread, rfl⟩ := exists_of_map_eq_ok h
  intro item hitem
  obtain ⟨⟨column, direction⟩, hcolumn, rfl⟩ := List.mem_map.mp hitem
  have hname := d.identifier_ne_empty (trim_ne_empty_of_readOrder hread _ hcolumn)
  simp [orderItem, String.append_eq_empty_iff, hname]

end Dialect

/-- A function has parentheses, a column is not blank, and an alias is behind one of the two. -/
theorem Key.render_ne_empty {expression : String} {k : Key} (h : Key.parse expression = .ok k)
    (d : Dialect) : k.render d ≠ "" := by
  have hbase : k.base.render d ≠ "" := by
    cases hk : k.base with
    | column name => exact d.identifier_ne_empty (trim_ne_empty_of_parse h hk)
    | call function arguments => simp [KeyBase.render, String.append_eq_empty_iff]
  unfold render
  split
  · exact hbase
  · simp [String.append_eq_empty_iff, hbase]

theorem keys_ne_empty {d : Dialect} {expressions ks : List String}
    (h : d.keys expressions = .ok ks) : ∀ k ∈ ks, k ≠ "" := by
  rw [d.keys_eq_map] at h
  obtain ⟨read, hread, rfl⟩ := exists_of_map_eq_ok h
  intro text htext
  obtain ⟨k, hk, rfl⟩ := List.mem_map.mp htext
  obtain ⟨expression, -, hexpression⟩ := exists_of_mem_mapM hread hk
  exact Key.render_ne_empty (parse_of_readKey hexpression) d

/-- The decimal notation of a number has at least one digit. -/
theorem Decimal.positional_ne_empty (x : Decimal) : x.positional ≠ "" := by
  unfold positional
  split
  · simp [Nat.toDigits_ne_nil]
  · simp

theorem Binary64.text_ne_empty (x : Binary64) : x.text ≠ "" := by
  have hmagnitude : (if !x.isFinite then "inf" else if x.significand = 0 then "0"
      else x.shortest.positional) ≠ "" := by
    split
    · decide
    · split
      · decide
      · exact x.shortest.positional_ne_empty
  unfold text
  split
  · decide
  · dsimp only
    split
    · simp [String.append_eq_empty_iff]
    · exact hmagnitude

theorem int_repr_ne_empty (n : Int) : n.repr ≠ "" := by
  rw [Int.repr_eq_if]
  split
  · exact Nat.repr_ne_empty
  · simp [String.append_eq_empty_iff]

theorem boolWord_ne_empty (d : Dialect) (b : Bool) : d.boolWord b ≠ "" := by
  cases d <;> cases b <;> decide

theorem dateTime_ne_empty (st : Style) (t : DateTime) : st.dateTime t ≠ "" := by
  unfold Style.dateTime
  dsimp only
  split
  · simp [String.append_eq_empty_iff]
  · exact quote_ne_empty st _

/-- Whatever the escaper makes of a text, its literal has quotes. -/
theorem literal_ne_empty {st : Style} {v : Literal} {text : String} (h : st.literal v = .ok text) :
    text ≠ "" := by
  cases v with
  | null =>
    cases h
    decide
  | bool b =>
    cases h
    exact boolWord_ne_empty st.dialect b
  | int n =>
    cases h
    exact int_repr_ne_empty n.toInt
  | uint n =>
    cases h
    exact Nat.repr_ne_empty
  | float x =>
    rw [Style.literal] at h
    split at h
    · cases h
      exact x.text_ne_empty
    · cases h
  | text s =>
    cases h
    exact quote_ne_empty st s
  | dateTime t =>
    cases h
    exact dateTime_ne_empty st t

theorem literals_ne_empty {st : Style} {row : List Literal} {cells : List String}
    (h : st.literals row = .ok cells) : ∀ cell ∈ cells, cell ≠ "" := by
  intro cell hcell
  obtain ⟨v, -, hv⟩ := exists_of_mem_mapM h hcell
  exact literal_ne_empty hv

/-- A term of a join has at least its operator. -/
theorem joinTerm_ne_empty {first operator second term : String}
    (h : JoinCondition.term first operator second = .ok term) : term ≠ "" := by
  obtain ⟨comparison, -, hrest⟩ := exists_of_bind_eq_ok h
  split at hrest
  · cases hrest
  · next hcolumns =>
    cases hrest
    have hfirst : trim first ≠ "" := fun hempty => hcolumns (Or.inl hempty)
    simp [String.append_eq_empty_iff, hfirst]

/-! ## The wildcard among the keys -/

/-- Whether a key is the wildcard and nothing else. -/
def Key.isWildcard : Key → Bool
  | ⟨.column name, none⟩ => trim name == "*"
  | _ => false

/-- A text with another character in it is not the wildcard. -/
theorem ne_wildcard_of_mem {s : String} {c : Char} (hc : c ∈ s.toList) (hne : c ≠ '*') :
    s ≠ "*" := by
  rintro rfl
  exact hne (List.mem_singleton.mp hc)

namespace Dialect

/-- Delimiting keeps the wildcard and makes no other. -/
theorem delimit_eq_wildcard_iff (component : String) :
    delimit component = "*" ↔ component = "*" := by
  unfold delimit
  split
  · rfl
  · next h => simp [h, ne_wildcard_of_mem (s := "`" ++ component ++ "`") (c := '`')]

/-- A single component is the whole name, and several have a point between them. -/
theorem quoteIdentifier_eq_wildcard_iff (d : Dialect) (name : String) :
    d.quoteIdentifier name = "*" ↔ name = "*" := by
  unfold quoteIdentifier
  split
  · have hname := intercalate_components name
    match hcomponents : components name with
    | [] => exact absurd hcomponents (components_ne_nil name)
    | [component] =>
      rw [hcomponents, String.intercalate_singleton] at hname
      rw [List.map_singleton, String.intercalate_singleton, delimit_eq_wildcard_iff, hname]
    | first :: second :: rest =>
      have hpoint (f : String → String) :
          ".".intercalate ((first :: second :: rest).map f) ≠ "*" :=
        ne_wildcard_of_mem (c := '.') (by simp) (by decide)
      rw [hcomponents] at hname
      have hwhole := hpoint id
      rw [List.map_id, hname] at hwhole
      exact iff_of_false (hpoint delimit) hwhole
  · rfl

/-- An identifier is the wildcard only if the name is, up to blanks around it. -/
theorem identifier_eq_wildcard_iff (d : Dialect) (name : String) :
    d.identifier name = "*" ↔ trim name = "*" := by
  rw [identifier_eq_quoteIdentifier]
  exact d.quoteIdentifier_eq_wildcard_iff (trim name)

end Dialect

/-- A key is written as the wildcard in one dialect exactly if it is in all of them. -/
theorem Key.render_eq_wildcard_iff (d : Dialect) (k : Key) :
    k.render d = "*" ↔ k.isWildcard = true := by
  obtain ⟨base, label⟩ := k
  cases label with
  | some l =>
    exact iff_of_false (ne_wildcard_of_mem (c := 'A') (by simp [render]) (by decide))
      (by cases base <;> simp [isWildcard])
  | none =>
    cases base with
    | column name =>
      show d.identifier name = "*" ↔ (trim name == "*") = true
      rw [beq_iff_eq]
      exact d.identifier_eq_wildcard_iff name
    | call function arguments =>
      exact iff_of_false
        (ne_wildcard_of_mem (c := '(') (by simp [render, KeyBase.render]) (by decide))
        (by simp [isWildcard])

end DialectSql
