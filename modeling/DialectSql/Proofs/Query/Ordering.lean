import DialectSql.Proofs.Rendering

/-!
# Columns and their directions

The order of the rows is given by two lists, columns and directions, and the second list may be the
shorter one. The program goes through both lists at once and stops at the first fault. Here the same
is said by places: `Orders` lists the conditions on the two lists without an order among them, and
item `i` of the result is written from column `i` and direction `i` (`Dialect.itemAt`).

The main statement `order_of_directions` says that the call is accepted exactly under these
conditions, that the items then replace the earlier order, and that a refused call keeps it.
-/

set_option autoImplicit false

namespace DialectSql

open Text

/-! ## One direction -/

namespace Direction

/-- The text is blank or one of the two words, in any case and with any blanks around it. -/
def IsGiven (text : String) : Prop := upper (trim text) ∈ ["", "ASC", "DESC"]

instance (text : String) : Decidable (IsGiven text) :=
  inferInstanceAs (Decidable (upper (trim text) ∈ ["", "ASC", "DESC"]))

/-- What stands behind a column: the word of its direction after a space, unless there is no
direction or a blank one. -/
def written : Option String → String
  | some text => if trim text = "" then "" else " " ++ upper (trim text)
  | none => ""

theorem upper_eq_empty_iff (s : String) : upper s = "" ↔ s = "" := by
  simp [upper]

/-- A text is compared with the two words, a blank one apart. -/
theorem parse_eq (text : String) :
    parse text =
      if upper (trim text) = "" then .ok none
      else if upper (trim text) = "ASC" then .ok (some .ascending)
      else if upper (trim text) = "DESC" then .ok (some .descending)
      else .error (.invalidClause .orderBy (.invalidDirection (upper (trim text)))) := by
  simp only [parse]
  generalize upper (trim text) = word
  by_cases hblank : word = ""
  · subst hblank
    rfl
  · by_cases hasc : word = "ASC"
    · subst hasc
      rfl
    · by_cases hdesc : word = "DESC"
      · subst hdesc
        rfl
      · simp only [if_neg hblank, if_neg hasc, if_neg hdesc]

/-- A direction is accepted if it is blank or one of two words in any case. -/
theorem exists_parse_iff (text : String) :
    (∃ direction, parse text = .ok direction) ↔ IsGiven text := by
  rw [parse_eq, IsGiven]
  generalize upper (trim text) = word
  split
  · next h => exact iff_of_true ⟨_, rfl⟩ (by simp [h])
  · split
    · next h => exact iff_of_true ⟨_, rfl⟩ (by simp [h])
    · split
      · next h => exact iff_of_true ⟨_, rfl⟩ (by simp [h])
      · next hblank hasc hdesc => exact iff_of_false (by simp) (by simp [hblank, hasc, hdesc])

/-- The keyword of a direction that has been read is the word that was given. -/
theorem written_of_parse {text : String} {direction : Option Direction}
    (h : parse text = .ok direction) :
    direction.elim "" (" " ++ ·.keyword) = written (some text) := by
  have hempty := upper_eq_empty_iff (trim text)
  rw [parse_eq] at h
  rw [written, ← if_congr hempty rfl rfl]
  split at h
  · next hblank =>
    cases h
    rw [if_pos hblank]
    rfl
  · next hblank =>
    rw [if_neg hblank]
    split at h
    · next hasc =>
      cases h
      rw [hasc]
      rfl
    · split at h
      · next hdesc =>
        cases h
        rw [hdesc]
        rfl
      · cases h

theorem exists_fault_of_parse {text : String} {e : Error} (h : parse text = .error e) :
    ∃ fault, e = .invalidClause .orderBy fault := by
  rw [parse_eq] at h
  split at h
  · cases h
  · split at h
    · cases h
    · split at h
      · cases h
      · cases h
        exact ⟨.invalidDirection _, rfl⟩

end Direction

/-! ## Both lists -/

/-- Columns and directions that make an order: there is a column and none of them is blank, and
there is a column for each direction and each direction is one. -/
structure Orders (columns directions : List String) : Prop where
  columns_ne_nil : columns ≠ []
  length_le : directions.length ≤ columns.length
  columns_named : ∀ column ∈ columns, trim column ≠ ""
  directions_given : ∀ text ∈ directions, Direction.IsGiven text

/-- The item at a place: the column there, in SQLite a comparison without regard to case, and the
direction at the same place. -/
def Dialect.itemAt (d : Dialect) (directions : List String) (i : Nat) (column : String) : String :=
  d.identifier column ++ (if d = .sqlite then " COLLATE NOCASE" else "") ++
    Direction.written directions[i]?

/-- A direction that is missing is accepted as well. -/
theorem exists_readDirection_iff (text : Option String) :
    (∃ direction, readDirection text = .ok direction) ↔ ∀ word ∈ text, Direction.IsGiven word := by
  cases text with
  | none => exact iff_of_true ⟨none, rfl⟩ (by simp)
  | some word =>
    rw [readDirection, Direction.exists_parse_iff]
    simp

/-- No direction is left when the columns end, so every one of them has been read. -/
theorem exists_readOrderFrom_iff {columns directions : List String}
    (hlength : directions.length ≤ columns.length) :
    (∃ items, readOrderFrom columns directions = .ok items) ↔
      (∀ column ∈ columns, trim column ≠ "") ∧ ∀ text ∈ directions, Direction.IsGiven text := by
  -- The induction is on the columns; a step takes one direction as well, if there is one left.
  induction columns generalizing directions with
  | nil =>
    obtain rfl := List.length_eq_zero_iff.mp (Nat.le_zero.mp hlength)
    exact iff_of_true ⟨[], rfl⟩ ⟨by simp, by simp⟩
  | cons column columns ih =>
    have htail : directions.tail.length ≤ columns.length := by
      rw [List.length_tail]
      rw [List.length_cons] at hlength
      omega
    have hdirections : (∀ text ∈ directions, Direction.IsGiven text) ↔
        (∀ word ∈ directions.head?, Direction.IsGiven word) ∧
          ∀ text ∈ directions.tail, Direction.IsGiven text := by
      cases directions with
      | nil => simp
      | cons first rest => simp
    rw [readOrderFrom, List.forall_mem_cons, hdirections, ← exists_readDirection_iff]
    by_cases hcolumn : trim column = ""
    · rw [if_pos hcolumn]
      apply iff_of_false
      · rintro ⟨items, h⟩
        cases h
      · intro h
        exact h.1.1 hcolumn
    · rw [if_neg hcolumn]
      constructor
      · rintro ⟨items, h⟩
        obtain ⟨direction, hdirection, hrest⟩ := exists_of_bind_eq_ok h
        obtain ⟨rest, hrest', -⟩ := exists_of_map_eq_ok hrest
        obtain ⟨hcolumns, hgiven⟩ := (ih htail).mp ⟨rest, hrest'⟩
        exact ⟨⟨hcolumn, hcolumns⟩, ⟨direction, hdirection⟩, hgiven⟩
      · rintro ⟨⟨-, hcolumns⟩, ⟨direction, hdirection⟩, hgiven⟩
        obtain ⟨rest, hrest⟩ := (ih htail).mpr ⟨hcolumns, hgiven⟩
        rw [hdirection, hrest]
        exact ⟨_, rfl⟩

theorem exists_fault_of_readDirection {text : Option String} {e : Error}
    (h : readDirection text = .error e) : ∃ fault, e = .invalidClause .orderBy fault := by
  cases text with
  | none => cases h
  | some word =>
    rw [readDirection] at h
    exact Direction.exists_fault_of_parse h

/-- What refuses an order is a fault of this clause. -/
theorem exists_fault_of_readOrderFrom {columns directions : List String} {e : Error}
    (h : readOrderFrom columns directions = .error e) :
    ∃ fault, e = .invalidClause .orderBy fault := by
  induction columns generalizing directions with
  | nil => cases h
  | cons column columns ih =>
    unfold readOrderFrom at h
    split at h
    · cases h
      exact ⟨.emptyColumn, rfl⟩
    · rcases error_cases_of_bind h with hdirection | ⟨direction, -, hrest⟩
      · exact exists_fault_of_readDirection hdirection
      · exact ih (error_of_map hrest)

namespace Dialect

/-- The first item has the first direction. -/
theorem orderItem_eq_itemAt (d : Dialect) (column : String) {directions : List String}
    {direction : Option Direction} (h : readDirection directions.head? = .ok direction) :
    d.orderItem column direction = d.itemAt directions 0 column := by
  have hwritten : direction.elim "" (" " ++ ·.keyword) = Direction.written directions[0]? := by
    rw [← List.head?_eq_getElem?]
    cases hhead : directions.head? with
    | none =>
      rw [hhead] at h
      cases h
      rfl
    | some word =>
      rw [hhead, readDirection] at h
      exact Direction.written_of_parse h
  rw [itemAt, ← hwritten]
  cases direction <;> rfl

/-- Each item is written from the column and the direction at its own place. -/
theorem eq_mapIdx_of_orderItemsFrom (d : Dialect) {columns directions items : List String}
    (h : d.orderItemsFrom columns directions = .ok items) :
    items = columns.mapIdx (d.itemAt directions) := by
  induction columns generalizing directions items with
  | nil =>
    cases h
    rfl
  | cons column columns ih =>
    rw [orderItemsFrom_cons] at h
    split at h
    · cases h
    · obtain ⟨direction, hdirection, hrest⟩ := exists_of_bind_eq_ok h
      obtain ⟨rest, hrest', rfl⟩ := exists_of_map_eq_ok hrest
      have hplaces : d.itemAt directions.tail = fun i => d.itemAt directions (i + 1) := by
        funext i column
        rw [itemAt, itemAt, List.getElem?_tail]
      rw [List.mapIdx_cons, ih hrest', d.orderItem_eq_itemAt column hdirection, hplaces]

/-- An order is accepted exactly if the two lists make one. -/
theorem exists_orderItems_iff (d : Dialect) (columns directions : List String) :
    (∃ items, d.orderItems columns directions = .ok items) ↔ Orders columns directions := by
  have hitems : (∃ items, d.orderItems columns directions = .ok items) ↔
      ∃ items, readOrder columns directions = .ok items := by
    rw [orderItems_eq_map]
    cases readOrder columns directions <;> simp [Except.map]
  rw [hitems, readOrder]
  by_cases hnone : columns = []
  · rw [if_pos hnone]
    exact iff_of_false (by simp) fun h => h.columns_ne_nil hnone
  · rw [if_neg hnone]
    by_cases hmany : columns.length < directions.length
    · rw [if_pos hmany]
      exact iff_of_false (by simp) fun h => absurd h.length_le (Nat.not_le.mpr hmany)
    · have hlength := Nat.not_lt.mp hmany
      rw [if_neg hmany, exists_readOrderFrom_iff hlength]
      exact ⟨fun h => ⟨hnone, hlength, h.1, h.2⟩, fun h => ⟨h.columns_named, h.directions_given⟩⟩

/-- The item at a place has the column and the direction at this place. -/
theorem eq_mapIdx_of_orderItems (d : Dialect) {columns directions items : List String}
    (h : d.orderItems columns directions = .ok items) :
    items = columns.mapIdx (d.itemAt directions) := by
  unfold orderItems at h
  by_cases hnone : columns = []
  · simp only [if_pos hnone] at h
    cases h
  · by_cases hmany : columns.length < directions.length
    · simp only [if_neg hnone, if_pos hmany] at h
      cases h
    · simp only [if_neg hnone, if_neg hmany] at h
      exact d.eq_mapIdx_of_orderItemsFrom h

theorem exists_fault_of_orderItems (d : Dialect) {columns directions : List String} {e : Error}
    (h : d.orderItems columns directions = .error e) :
    ∃ fault, e = .invalidClause .orderBy fault := by
  rw [orderItems_eq_map, readOrder] at h
  by_cases hnone : columns = []
  · rw [if_pos hnone] at h
    cases h
    exact ⟨.emptyColumnList, rfl⟩
  · rw [if_neg hnone] at h
    by_cases hmany : columns.length < directions.length
    · rw [if_pos hmany] at h
      cases h
      exact ⟨.tooManyDirections directions.length columns.length, rfl⟩
    · rw [if_neg hmany] at h
      exact exists_fault_of_readOrderFrom (error_of_map h)

end Dialect

/-! ## The call -/

namespace Session

/-- **Directions stay with their columns.** The call is accepted exactly if the two lists make an
order. The items of the order then replace those there were: one for each column, in order, each
with the direction at its own place. Otherwise the call is refused for its ORDER BY clause and the
session is left as it was. Without directions the call is the one with columns only. -/
theorem order_of_directions (s : Session) (columns directions : List String) :
    let result := s.perform (.orderBy columns directions)
    let items := columns.mapIdx (s.query.dialect.itemAt directions)
    ((∃ answer, result.1 = .ok answer) ↔ Orders columns directions) ∧
      (Orders columns directions →
        result = (.ok none, s.withEdit fun f => { f with orderBy := items })) ∧
      (¬ Orders columns directions →
        ∃ fault, result = (.error (.invalidClause .orderBy fault), s)) ∧
      s.perform (.orderByColumns columns) = s.perform (.orderBy columns []) := by
  intro result items
  have hresult : result = s.edited ((s.query.dialect.orderItems columns directions).map
      fun items f => { f with orderBy := items }) := perform_of_edit rfl
  have haccepted := s.query.dialect.exists_orderItems_iff columns directions
  cases hitems : s.query.dialect.orderItems columns directions with
  | ok written =>
    have horders : Orders columns directions := haccepted.mp ⟨written, hitems⟩
    rw [hitems, s.query.dialect.eq_mapIdx_of_orderItems hitems] at hresult
    refine ⟨iff_of_true ?_ horders, fun _ => hresult, fun h => absurd horders h, rfl⟩
    rw [hresult]
    exact ⟨none, rfl⟩
  | error e =>
    have hnot : ¬ Orders columns directions := by
      intro horders
      obtain ⟨written, hwritten⟩ := haccepted.mpr horders
      rw [hitems] at hwritten
      cases hwritten
    obtain ⟨fault, rfl⟩ := s.query.dialect.exists_fault_of_orderItems hitems
    rw [hitems] at hresult
    refine ⟨iff_of_false ?_ hnot, fun h => absurd h hnot, fun _ => ⟨fault, hresult⟩, rfl⟩
    rw [hresult]
    rintro ⟨answer, h⟩
    cases h

/-- A blank direction in front of one that is not, fewer directions than columns, and a word that is
no direction behind columns that are accepted. -/
theorem order_of_directions_sqlite :
    let s : Session :=
      { query := { style := .standard .sqlite, fragments := { orderBy := ["z"] } } }
    Orders ["a", " t.b", "c"] ["\t", " dEsc "] ∧ ¬ Orders ["a", "b"] ["asc", "down"] ∧
      s.perform (.orderBy ["a", " t.b", "c"] ["\t", " dEsc "]) =
        (.ok none, s.withEdit fun f =>
          { f with orderBy :=
              ["a COLLATE NOCASE", "t.b COLLATE NOCASE DESC", "c COLLATE NOCASE"] }) ∧
      ∃ fault, s.perform (.orderBy ["a", "b"] ["asc", "down"]) =
        (.error (.invalidClause .orderBy fault), s) := by
  intro s
  have horders : Orders ["a", " t.b", "c"] ["\t", " dEsc "] :=
    ⟨by decide, by decide, by decide, by decide⟩
  have hnot : ¬ Orders ["a", "b"] ["asc", "down"] := by
    intro h
    have hword := h.directions_given "down" (by decide)
    revert hword
    decide
  obtain ⟨-, haccepted, -, -⟩ := order_of_directions s ["a", " t.b", "c"] ["\t", " dEsc "]
  obtain ⟨-, -, hrefused, -⟩ := order_of_directions s ["a", "b"] ["asc", "down"]
  exact ⟨horders, hnot, haccepted horders, hrefused hnot⟩

end Session

end DialectSql
