import DialectSql.Proofs.Query.Outcome
import Mathlib.Data.List.DropRight

/-!
# Definitions of columns and their modifiers

The definition of a column is a name, a type and modifiers, which are given one after the other.
This module says what is left of the order in which they are given, and what is written of them.

A flag stays set and of several lengths, character sets, collations or default values the last one
counts. `Column.ofModifiers` is the column said so, without an order of the modifiers, and
`foldl_modify` says that giving them one by one leads there.

What follows the type are `ColumnPart`s. `Column.writes` says of each part alone whether it is
written, and `Column.render_eq` that the text has exactly these parts, in the order of
`ColumnPart.all`. The main statement is `column_definitions`.
-/

set_option autoImplicit false

namespace DialectSql

open Text

/-! ## Modifiers -/

namespace ColumnModifier

/-- The modifiers that say nothing but that they are given. -/
def isFlag : ColumnModifier → Bool
  | unsigned | zerofill | notNull | autoIncrement | unique | primaryKey => true
  | length _ | charset _ | collate _ | default _ => false

/-- The length that a modifier gives. -/
def length? : ColumnModifier → Option Nat
  | length n => some n
  | _ => none

/-- The character set that a modifier gives, a blank one included. -/
def charset? : ColumnModifier → Option String
  | charset s => some s
  | _ => none

/-- The collation that a modifier gives, a blank one included. -/
def collation? : ColumnModifier → Option String
  | collate s => some s
  | _ => none

/-- The default value that a modifier gives. -/
def default? : ColumnModifier → Option Literal
  | default v => some v
  | _ => none

/-- What the last of the modifiers gives that give something of the kind. -/
def last {α : Type} (kind : ColumnModifier → Option α) (ms : List ColumnModifier) : Option α :=
  (ms.filterMap kind).getLast?

/-- A further modifier decides what its kind gives, and leaves other kinds as they were. -/
theorem last_concat {α : Type} (kind : ColumnModifier → Option α) (ms : List ColumnModifier)
    (m : ColumnModifier) : last kind (ms ++ [m]) = (kind m).or (last kind ms) := by
  rw [last, List.filterMap_append, last]
  cases h : kind m with
  | none => rw [List.filterMap_cons_none h, List.filterMap_nil, List.append_nil, Option.none_or]
  | some x =>
    rw [List.filterMap_cons_some h, List.filterMap_nil, List.getLast?_concat, Option.some_or]

/-- The same flags are given, and of each other kind the last modifiers give the same. A blank
character set or collation is none. -/
structure Agree (ms ns : List ColumnModifier) : Prop where
  flags : ∀ m : ColumnModifier, m.isFlag = true → (m ∈ ms ↔ m ∈ ns)
  length : last length? ms = last length? ns
  charset : (last charset? ms).bind nonblank? = (last charset? ns).bind nonblank?
  collation : (last collation? ms).bind nonblank? = (last collation? ns).bind nonblank?
  default : last default? ms = last default? ns

end ColumnModifier

namespace Column

open ColumnModifier

/-- The column of a name, a type and modifiers that are given one after the other. -/
def define (name : String) (type : ColumnType) (ms : List ColumnModifier) : Except Error Column :=
  (make name type).map fun col => ms.foldl modify col

/-- The name and the type of a column with the given modifiers, whatever it had before. -/
def ofModifiers (col : Column) (ms : List ColumnModifier) : Column :=
  { col with
    length := last length? ms
    unsigned := ms.contains .unsigned
    zerofill := ms.contains .zerofill
    charset := (last charset? ms).bind nonblank?
    collation := (last collation? ms).bind nonblank?
    notNull := ms.contains .notNull
    default := last default? ms
    autoIncrement := ms.contains .autoIncrement
    unique := ms.contains .unique
    primaryKey := ms.contains .primaryKey }

/-- One more modifier sets its flag or is the last one of its kind. -/
theorem ofModifiers_concat (col : Column) (ms : List ColumnModifier) (m : ColumnModifier) :
    col.ofModifiers (ms ++ [m]) = (col.ofModifiers ms).modify m := by
  cases m <;> simp [ofModifiers, modify, last_concat, length?, charset?, collation?, default?]

/-- A chain of modifiers has the effect of the last one of each kind: the induction takes off the
last modifier, since it is the one that counts. -/
theorem foldl_modify (col : Column) (hcol : col.ofModifiers [] = col) (ms : List ColumnModifier) :
    ms.foldl modify col = col.ofModifiers ms := by
  induction ms using List.reverseRecOn with
  | nil => exact hcol.symm
  | append_singleton ms m ih => rw [List.foldl_concat, ih, ofModifiers_concat]

/-- A definition is refused for its name before any modifier counts. -/
theorem define_eq (name : String) (type : ColumnType) (ms : List ColumnModifier) :
    define name type ms = (make name type).map (ofModifiers · ms) := by
  rw [define, make]
  split
  · rfl
  · exact congrArg Except.ok (foldl_modify _ rfl ms)

/-- Chains that agree make one definition. -/
theorem ofModifiers_congr (col : Column) {ms ns : List ColumnModifier} (h : Agree ms ns) :
    col.ofModifiers ms = col.ofModifiers ns := by
  have hflag (m : ColumnModifier) (hm : m.isFlag = true) : ms.contains m = ns.contains m := by
    rw [Bool.eq_iff_iff, List.contains_iff_mem, List.contains_iff_mem]
    exact h.flags m hm
  simp only [ofModifiers, h.length, h.charset, h.collation, h.default, hflag .unsigned rfl,
    hflag .zerofill rfl, hflag .notNull rfl, hflag .autoIncrement rfl, hflag .unique rfl,
    hflag .primaryKey rfl]

end Column

/-! ## Parts of a definition -/

/-- What can stand behind the type, with the texts that the caller gave. -/
inductive ColumnPart where
  | unsigned
  | zerofill
  | charset (name : String)
  | collation (name : String)
  | notNull
  /-- The default value as it is written. -/
  | default (value : String)
  /-- Values that are counted up. -/
  | generated
  | unique
  | primaryKey
  /-- What SQLite writes for values that are counted up. -/
  | autoincrement
deriving DecidableEq

namespace ColumnPart

/-- All parts in the order in which they stand, for the given texts. -/
def all (charset collation value : String) : List ColumnPart :=
  [.unsigned, .zerofill, .charset charset, .collation collation, .notNull, .default value,
    .generated, .unique, .primaryKey, .autoincrement]

/-- How a dialect says that values are counted up. -/
def generatedWords : Dialect → String
  | .mysqli | .mysqlPdo => "AUTO_INCREMENT"
  | .sqlServer => "IDENTITY(1,1)"
  | _ => "GENERATED BY DEFAULT AS IDENTITY"

/-- The words of a part. -/
def text (d : Dialect) : ColumnPart → String
  | unsigned => "UNSIGNED"
  | zerofill => "ZEROFILL"
  | charset name => "CHARACTER SET " ++ name
  | collation name =>
      if d = .postgresql then "COLLATE \"" ++ name ++ "\"" else "COLLATE " ++ name
  | notNull => "NOT NULL"
  | default value => "DEFAULT " ++ value
  | generated => generatedWords d
  | unique => "UNIQUE"
  | primaryKey => "PRIMARY KEY"
  | autoincrement => "AUTOINCREMENT"

theorem nodup_all (charset collation value : String) : (all charset collation value).Nodup := by
  simp [all]

end ColumnPart

namespace Column

open ColumnPart

/-- The default value as it is written, if there is one and it has a text. -/
def defaultText (st : Style) (col : Column) : Option String :=
  col.default.bind fun v => (st.literal v).toOption

/-- Whether a part is written: the column has it and the dialect knows it. -/
def writes (st : Style) (col : Column) : ColumnPart → Bool
  | .unsigned =>
      col.unsigned && (st.dialect.isMySQL || (st.dialect == .sqlite && !col.primaryKey))
  | .zerofill => col.zerofill && st.dialect.isMySQL
  | .charset name => col.charset == some name && st.dialect.isMySQL
  | .collation name =>
      col.collation == some name && st.dialect != .oracle && st.dialect != .db2
  | .notNull => col.notNull
  | .default value => col.defaultText st == some value
  | .generated => col.autoIncrement && st.dialect != .sqlite
  | .unique => col.unique
  | .primaryKey => col.primaryKey
  | .autoincrement => col.autoIncrement && col.primaryKey && st.dialect == .sqlite

/-- The length in parentheses: one is set, the type takes one and its keyword has none already. -/
def lengthText (d : Dialect) (col : Column) : String :=
  match col.length with
  | some n =>
      if d.acceptsLength col.type = true ∧ '(' ∉ (d.typeKeyword col.type).toList then
        "(" ++ n.repr ++ ")"
      else ""
  | none => ""

/-- The type is its keyword with the length behind it. -/
theorem typePart_eq (d : Dialect) (col : Column) :
    col.typePart d = d.typeKeyword col.type ++ col.lengthText d := by
  unfold typePart lengthText
  cases col.length with
  | none => exact String.append_empty.symm
  | some n =>
    dsimp only
    have hlength : (d.acceptsLength col.type && !d.hasOwnLength col.type) = true ↔
        d.acceptsLength col.type = true ∧ '(' ∉ (d.typeKeyword col.type).toList := by
      simp [Dialect.hasOwnLength]
    by_cases h : d.acceptsLength col.type = true ∧ '(' ∉ (d.typeKeyword col.type).toList
    · rw [if_pos (hlength.mpr h), if_pos h]
      simp only [String.append_assoc]
    · rw [if_neg (fun h' => h (hlength.mp h')), if_neg h, String.append_empty]

/-- The texts of those of the given parts that are written. -/
def written (st : Style) (col : Column) (ps : List ColumnPart) : List String :=
  (ps.filter (col.writes st)).map (ColumnPart.text st.dialect)

theorem written_append (st : Style) (col : Column) (ps qs : List ColumnPart) :
    col.written st (ps ++ qs) = col.written st ps ++ col.written st qs := by
  rw [written, List.filter_append, List.map_append, written, written]

theorem written_singleton (st : Style) (col : Column) (p : ColumnPart) :
    col.written st [p] = if col.writes st p then [p.text st.dialect] else [] := by
  cases h : col.writes st p <;> simp [written, h]

theorem unsignedPart_eq (st : Style) (col : Column) :
    col.unsignedPart st.dialect = col.written st [.unsigned] :=
  (written_singleton st col .unsigned).symm

theorem zerofillPart_eq (st : Style) (col : Column) :
    col.zerofillPart st.dialect = col.written st [.zerofill] :=
  (written_singleton st col .zerofill).symm

theorem charsetPart_eq (st : Style) (col : Column) :
    col.charsetPart st.dialect = col.written st [.charset (col.charset.getD "")] := by
  rw [written_singleton, charsetPart]
  cases h : col.charset with
  | none => simp [writes, h]
  | some name => simp [writes, h, ColumnPart.text]

theorem collationPart_eq (st : Style) (col : Column) :
    col.collationPart st.dialect = col.written st [.collation (col.collation.getD "")] := by
  rw [written_singleton, collationPart]
  cases h : col.collation with
  | none => simp [writes, h]
  | some name => cases hd : st.dialect <;> simp [writes, h, hd, ColumnPart.text]

theorem notNullPart_eq (st : Style) (col : Column) :
    col.notNullPart = col.written st [.notNull] :=
  (written_singleton st col .notNull).symm

/-- A default that can be written is one part, and without a default there is none. -/
theorem defaultPart_eq {st : Style} {col : Column} {texts : List String}
    (h : col.defaultPart st = .ok texts) :
    texts = col.written st [.default ((col.defaultText st).getD "")] := by
  rw [written_singleton]
  unfold defaultPart at h
  cases hv : col.default with
  | none =>
    rw [hv] at h
    simpa [writes, defaultText, hv] using (Except.ok.inj h).symm
  | some v =>
    rw [hv] at h
    obtain ⟨value, hvalue, htexts⟩ := exists_of_bind_eq_ok h
    simpa [writes, defaultText, hv, hvalue, Except.toOption, ColumnPart.text]
      using (Except.ok.inj htexts).symm

/-- The words for a generated value are those of the dialect, if it has any here. -/
theorem autoIncrementPart_eq (st : Style) (col : Column) :
    col.autoIncrementPart st.dialect = col.written st [.generated] := by
  rw [written_singleton]
  unfold autoIncrementPart
  cases hd : st.dialect <;> simp [writes, hd, ColumnPart.text, generatedWords]

theorem uniquePart_eq (st : Style) (col : Column) :
    col.uniquePart = col.written st [.unique] :=
  (written_singleton st col .unique).symm

/-- The word of SQLite for a generated value stands behind the key. -/
theorem primaryKeyPart_eq (st : Style) (col : Column) :
    col.primaryKeyPart st.dialect = col.written st [.primaryKey, .autoincrement] := by
  rw [← List.singleton_append, written_append, written_singleton, written_singleton,
    primaryKeyPart]
  cases hkey : col.primaryKey with
  | false => simp [writes, hkey]
  | true => simp [writes, hkey, ColumnPart.text, and_comm]

/-- The parts that are written, in their order. -/
def parts (st : Style) (col : Column) : List ColumnPart :=
  (all (col.charset.getD "") (col.collation.getD "") ((col.defaultText st).getD "")).filter
    (col.writes st)

/-- A definition that has a text is the name and the type and the parts that are written. -/
theorem render_eq {st : Style} {col : Column} {text : String} (h : col.render st = .ok text) :
    text = " ".intercalate (st.dialect.quoteIdentifier col.name ::
      (st.dialect.typeKeyword col.type ++ col.lengthText st.dialect) ::
      (col.parts st).map (ColumnPart.text st.dialect)) := by
  obtain ⟨-, -, hparts⟩ := exists_of_bind_eq_ok h
  obtain ⟨texts, htexts, hrender⟩ := exists_of_bind_eq_ok hparts
  -- Each part is what the filter leaves of its own entry, so all are what it leaves of the list.
  rw [← Except.ok.inj hrender, defaultPart_eq htexts, typePart_eq, unsignedPart_eq,
    zerofillPart_eq, charsetPart_eq, collationPart_eq, notNullPart_eq st, autoIncrementPart_eq,
    uniquePart_eq st, primaryKeyPart_eq]
  simp only [List.cons_append, List.nil_append, ← written_append]
  rfl

/-- A definition has exactly the parts that it is to write: a text of the caller is the one in the
list, and all other parts are in it anyway. -/
theorem mem_parts (st : Style) (col : Column) (p : ColumnPart) :
    p ∈ col.parts st ↔ col.writes st p = true := by
  rw [parts, List.mem_filter, and_iff_right_iff_imp]
  intro h
  cases p <;> simp_all [all, writes]

/-- The words of SQLite end the definition and stand behind those of the primary key. -/
theorem parts_of_autoincrement {st : Style} {col : Column}
    (h : ColumnPart.autoincrement ∈ col.parts st) :
    st.dialect = .sqlite ∧
      ∃ front, col.parts st = front ++ [ColumnPart.primaryKey, ColumnPart.autoincrement] := by
  have hwrites := (mem_parts st col .autoincrement).mp h
  obtain ⟨⟨hauto, hkey⟩, hd⟩ : (col.autoIncrement = true ∧ col.primaryKey = true) ∧
      st.dialect = .sqlite := by
    simpa [writes] using hwrites
  refine ⟨hd, (List.take 8 (all (col.charset.getD "") (col.collation.getD "")
    ((col.defaultText st).getD ""))).filter (col.writes st), ?_⟩
  have hlast : [ColumnPart.primaryKey, .autoincrement].filter (col.writes st) =
      [.primaryKey, .autoincrement] := by
    simp [writes, hauto, hkey, hd]
  rw [← hlast, ← List.filter_append]
  rfl

/-- In SQLite no definition has both an unsigned type and a key. -/
theorem not_unsigned_primaryKey {st : Style} {col : Column} (hd : st.dialect = .sqlite)
    (hunsigned : ColumnPart.unsigned ∈ col.parts st) : ColumnPart.primaryKey ∉ col.parts st := by
  rw [mem_parts] at hunsigned ⊢
  intro hkey
  simp_all [writes, Dialect.isMySQL]

/-- Modifiers can be given in any order. Two rows of them that agree lead to the same text or the
same error. A text is the name and the type, with the length where one is set and taken, and after
them each part at most once in one fixed order: a part is there exactly if the column has it and
the dialect knows it. What SQLite writes for values that are counted up comes last and right
behind the primary key, and its unsigned columns are no primary keys. -/
theorem column_definitions :
    (∀ (name : String) (type : ColumnType) (ms ns : List ColumnModifier),
      ColumnModifier.Agree ms ns →
      ∀ st : Style, (define name type ms >>= render st) = (define name type ns >>= render st)) ∧
    ∀ (st : Style) (col : Column) (text : String), col.render st = .ok text →
      ∃ (charset collation value : String) (parts : List ColumnPart),
        text = " ".intercalate (st.dialect.quoteIdentifier col.name ::
          (st.dialect.typeKeyword col.type ++ col.lengthText st.dialect) ::
          parts.map (ColumnPart.text st.dialect)) ∧
        parts.Sublist (all charset collation value) ∧
        parts.Nodup ∧
        (∀ p, p ∈ parts ↔ col.writes st p = true) ∧
        (ColumnPart.autoincrement ∈ parts → st.dialect = .sqlite ∧
          ∃ front, parts = front ++ [ColumnPart.primaryKey, ColumnPart.autoincrement]) ∧
        (st.dialect = .sqlite →
          ¬(ColumnPart.unsigned ∈ parts ∧ ColumnPart.primaryKey ∈ parts)) := by
  constructor
  · intro name type ms ns h st
    rw [define_eq, define_eq]
    simp only [fun col => ofModifiers_congr col h]
  · intro st col text h
    refine ⟨col.charset.getD "", col.collation.getD "", (col.defaultText st).getD "",
      col.parts st, render_eq h, List.filter_sublist, ?_, mem_parts st col,
      parts_of_autoincrement, ?_⟩
    · exact (nodup_all _ _ _).sublist List.filter_sublist
    · rintro hd ⟨hunsigned, hkey⟩
      exact not_unsigned_primaryKey hd hunsigned hkey

/-- Modifiers in another order, with lengths and character sets that do not count and a blank
collation, and a primary key that SQLite counts up. -/
theorem column_definitions_of_rearranged :
    let ms : List ColumnModifier := [.charset "latin1", .autoIncrement, .length 4, .primaryKey,
      .charset " utf8 ", .collate "nocase", .unsigned, .length 11, .collate "\t"]
    let ns : List ColumnModifier :=
      [.length 11, .primaryKey, .unsigned, .charset "utf8", .unsigned, .autoIncrement]
    let col : Column :=
      { name := "id", type := .integer, autoIncrement := true, unsigned := true, primaryKey := true,
        name_trimmed := by decide
        name_ne_empty := by decide }
    ColumnModifier.Agree ms ns ∧
      (define " id" .integer ms >>= render (.standard .mysqli)) =
        .ok "`id` INTEGER(11) UNSIGNED CHARACTER SET utf8 AUTO_INCREMENT PRIMARY KEY" ∧
      (define " id" .integer ns >>= render (.standard .mysqli)) =
        .ok "`id` INTEGER(11) UNSIGNED CHARACTER SET utf8 AUTO_INCREMENT PRIMARY KEY" ∧
      col.render (.standard .sqlite) = .ok "id INTEGER PRIMARY KEY AUTOINCREMENT" ∧
      ∃ parts : List ColumnPart, ColumnPart.autoincrement ∈ parts ∧ ColumnPart.unsigned ∉ parts ∧
        "id INTEGER PRIMARY KEY AUTOINCREMENT" =
          " ".intercalate ("id" :: "INTEGER" :: parts.map (ColumnPart.text .sqlite)) := by
  intro ms ns col
  have hagree : ColumnModifier.Agree ms ns := by
    refine ⟨fun m hm => ?_, by decide, by decide, by decide, by decide⟩
    cases m <;> simp_all [ms, ns, ColumnModifier.isFlag]
  have hms : (define " id" .integer ms >>= render (.standard .mysqli)) =
      .ok "`id` INTEGER(11) UNSIGNED CHARACTER SET utf8 AUTO_INCREMENT PRIMARY KEY" := by
    decide +kernel
  have hcol : col.render (.standard .sqlite) = .ok "id INTEGER PRIMARY KEY AUTOINCREMENT" := by
    decide +kernel
  obtain ⟨horder, htexts⟩ := column_definitions
  obtain ⟨-, -, -, parts, htext, -, -, hparts, -, hkeys⟩ := htexts _ col _ hcol
  have hlast : ColumnPart.autoincrement ∈ parts := (hparts _).mpr rfl
  have hkey : ColumnPart.primaryKey ∈ parts := (hparts _).mpr rfl
  exact ⟨hagree, hms, (horder _ _ ms ns hagree _).symm.trans hms, hcol, parts, hlast,
    fun hunsigned => hkeys rfl ⟨hunsigned, hkey⟩, htext⟩

end Column

end DialectSql
