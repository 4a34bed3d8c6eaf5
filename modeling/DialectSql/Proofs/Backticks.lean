import DialectSql.Proofs.Query.WellFormed

/-!
# What MySQL and the other dialects write alike

MySQL delimits names by backticks and the other dialects do not delimit them. This module says that
keys, columns and conditions differ in nothing else. Deleting the backticks (`withoutBackticks`)
commutes with putting texts together, and a name with and without its delimiters is the same name
when they are deleted. So keys and columns are the same in all dialects up to backticks
(`withoutBackticks_identifier`, `withoutBackticks_render`), whatever is in them. A text in which the
caller put no backtick is written by the other dialects without one (`unticked_render`).

In a condition the literals have to be alike as well. They are if neither escaper has anything to do
(`Literal.isNeutral`). The main statement is `texts_differ_in_backticks`.
-/

set_option autoImplicit false

namespace DialectSql

open Text

/-! ## Texts without backticks -/

/-- There is no backtick in the text. -/
def Unticked (s : String) : Prop := '`' ∉ s.toList

instance (s : String) : Decidable (Unticked s) := inferInstanceAs (Decidable ('`' ∉ s.toList))

/-- The text without its backticks. -/
def withoutBackticks (s : String) : String := String.ofList (s.toList.filter (· ≠ '`'))

theorem unticked_iff (s : String) : Unticked s ↔ ∀ c ∈ s.toList, c ≠ '`' :=
  ⟨fun h _ hc heq => h (heq ▸ hc), fun h htick => h _ htick rfl⟩

theorem unticked_append {a b : String} : Unticked (a ++ b) ↔ Unticked a ∧ Unticked b := by
  rw [Unticked, Unticked, Unticked, String.toList_append, List.mem_append, not_or]

theorem unticked_intercalate {separator : String} (hseparator : Unticked separator)
    (items : List String) :
    Unticked (separator.intercalate items) ↔ ∀ item ∈ items, Unticked item := by
  rw [unticked_iff] at hseparator
  simp only [unticked_iff]
  exact forall_mem_intercalate hseparator items

theorem unticked_trim {s : String} (h : Unticked s) : Unticked (trim s) := by
  rw [Unticked, toList_trim]
  exact fun htick => h ((isInfix_trimChars s.toList).subset htick)

/-- The pieces of a text have the characters of the text. -/
theorem unticked_split {marker s : String} (hne : marker ≠ "") (hmarker : Unticked marker)
    (h : Unticked s) : ∀ piece ∈ split marker s, Unticked piece := by
  rw [← unticked_intercalate hmarker, intercalate_split hne]
  exact h

theorem withoutBackticks_append (a b : String) :
    withoutBackticks (a ++ b) = withoutBackticks a ++ withoutBackticks b := by
  rw [withoutBackticks, String.toList_append, List.filter_append, String.ofList_append]
  rfl

theorem withoutBackticks_of_unticked {s : String} (h : Unticked s) : withoutBackticks s = s := by
  rw [unticked_iff] at h
  rw [withoutBackticks, List.filter_eq_self.mpr, String.ofList_toList]
  intro c hc
  simpa using h c hc

theorem withoutBackticks_intercalate {separator : String} (hseparator : Unticked separator)
    (items : List String) :
    withoutBackticks (separator.intercalate items) =
      separator.intercalate (items.map withoutBackticks) := by
  induction items with
  | nil => rfl
  | cons item items ih =>
    by_cases hne : items = []
    · subst hne
      rw [List.map_singleton, String.intercalate_singleton, String.intercalate_singleton]
    · have hne' : items.map withoutBackticks ≠ [] := by simpa using hne
      rw [List.map_cons, String.intercalate_cons_of_ne_nil hne,
        String.intercalate_cons_of_ne_nil hne', withoutBackticks_append, withoutBackticks_append,
        withoutBackticks_of_unticked hseparator, ih]

/-! ## Names -/

namespace Dialect

/-- Delimiting a part of a name adds backticks only. -/
theorem withoutBackticks_delimit (component : String) :
    withoutBackticks (delimit component) = withoutBackticks component := by
  have htick : withoutBackticks "`" = "" := by decide
  rw [delimit]
  split
  · rfl
  · rw [withoutBackticks_append, withoutBackticks_append, htick, String.empty_append,
      String.append_empty]

/-- A quoted name is the name when the backticks of both are deleted. -/
theorem withoutBackticks_quoteIdentifier (d : Dialect) (name : String) :
    withoutBackticks (d.quoteIdentifier name) = withoutBackticks name := by
  have hpoint : Unticked "." := by decide
  rw [quoteIdentifier]
  split
  · -- The components keep their points, and each of them loses its delimiters.
    have hcomponents : ((components name).map delimit).map withoutBackticks =
        (components name).map withoutBackticks := by
      rw [List.map_map]
      exact List.map_congr_left fun component _ => withoutBackticks_delimit component
    rw [withoutBackticks_intercalate hpoint, hcomponents, ← withoutBackticks_intercalate hpoint,
      intercalate_components]
  · rfl

/-- Every dialect writes the characters of the trimmed name. -/
theorem withoutBackticks_identifier (d : Dialect) (name : String) :
    withoutBackticks (d.identifier name) = withoutBackticks (trim name) := by
  rw [identifier_eq_quoteIdentifier, withoutBackticks_quoteIdentifier]

/-- Outside of MySQL a column is written as its trimmed name. -/
theorem identifier_of_not_isMySQL {d : Dialect} (hd : d.isMySQL = false) (name : String) :
    d.identifier name = trim name := by
  rw [identifier_eq_quoteIdentifier, quoteIdentifier, if_neg (by simp [hd])]

end Dialect

/-! ## Keys -/

/-- The texts of an expression: its column, or the function and its arguments. -/
def KeyBase.texts : KeyBase → List String
  | column name => [name]
  | call function arguments => function :: arguments

/-- The bases of keys differ between dialects in backticks only. -/
theorem KeyBase.withoutBackticks_render (d d' : Dialect) (base : KeyBase) :
    withoutBackticks (base.render d) = withoutBackticks (base.render d') := by
  cases base with
  | column name =>
    rw [render, render, d.withoutBackticks_identifier, d'.withoutBackticks_identifier]
  | call function arguments =>
    have harguments : (arguments.map d.identifier).map withoutBackticks =
        (arguments.map d'.identifier).map withoutBackticks := by
      rw [List.map_map, List.map_map]
      refine List.map_congr_left fun name _ => ?_
      exact (d.withoutBackticks_identifier name).trans (d'.withoutBackticks_identifier name).symm
    simp only [render, withoutBackticks_append,
      withoutBackticks_intercalate (by decide : Unticked ","), harguments]

/-- Two dialects write a key alike up to backticks. -/
theorem Key.withoutBackticks_render (d d' : Dialect) (k : Key) :
    withoutBackticks (k.render d) = withoutBackticks (k.render d') := by
  have hbase := k.base.withoutBackticks_render d d'
  unfold render
  cases k.label with
  | none => exact hbase
  | some label => simp only [withoutBackticks_append, hbase]

/-- The parts of an expression without backticks have none. -/
theorem KeyBase.unticked_of_parse {text : String} {base : KeyBase} (htext : Unticked text)
    (h : parse text = .ok base) : ∀ t ∈ base.texts, Unticked t := by
  have hpieces := unticked_split (by decide : functionMarker ≠ "") (by decide) htext
  unfold parse at h
  split at h
  · next function argument arguments hsplit =>
    rw [hsplit, List.forall_mem_cons] at hpieces
    split at h
    · next name hname =>
      cases h
      obtain ⟨rfl, -⟩ := nonblank?_eq_some_iff.mp hname
      exact List.forall_mem_cons.mpr ⟨unticked_trim hpieces.1, hpieces.2⟩
    · cases h
  · cases h
    exact List.forall_mem_singleton.mpr htext

/-- What a key is made of has been cut out of its expression. -/
theorem Key.unticked_of_parse {expression : String} {k : Key} (hexpression : Unticked expression)
    (h : parse expression = .ok k) :
    (∀ t ∈ k.base.texts, Unticked t) ∧ ∀ label ∈ k.label, Unticked label := by
  unfold parse at h
  split at h
  · cases h
  · next trimmed htrimmed =>
    obtain ⟨rfl, -⟩ := nonblank?_eq_some_iff.mp htrimmed
    obtain ⟨⟨base, label⟩, hparts, hrest⟩ := exists_of_bind_eq_ok h
    have hpieces := unticked_split (by decide : aliasMarker ≠ "") (by decide)
      (unticked_trim hexpression)
    have hcut : Unticked base ∧ ∀ l ∈ label, Unticked l := by
      unfold parts at hparts
      split at hparts
      · next piece hsplit =>
        cases hparts
        rw [hsplit] at hpieces
        exact ⟨hpieces _ List.mem_cons_self, by simp⟩
      · next piece last hsplit =>
        rw [hsplit] at hpieces
        split at hparts
        · next name hname =>
          cases hparts
          obtain ⟨rfl, -⟩ := nonblank?_eq_some_iff.mp hname
          refine ⟨hpieces _ List.mem_cons_self, ?_⟩
          rintro l ⟨⟩
          exact unticked_trim (hpieces _ (List.mem_cons_of_mem _ List.mem_cons_self))
        · cases hparts
      · cases hparts
    dsimp only at hrest
    split at hrest
    · cases hrest
    · next name hname =>
      obtain ⟨read, hread, hk⟩ := exists_of_bind_eq_ok hrest
      obtain ⟨rfl, -⟩ := nonblank?_eq_some_iff.mp hname
      cases hk
      exact ⟨KeyBase.unticked_of_parse (unticked_trim hcut.1) hread, hcut.2⟩

/-- Outside of MySQL no backtick is added to a key. -/
theorem Key.unticked_render {d : Dialect} (hd : d.isMySQL = false) {k : Key}
    (hbase : ∀ t ∈ k.base.texts, Unticked t) (hlabel : ∀ label ∈ k.label, Unticked label) :
    Unticked (k.render d) := by
  have hidentifier (name : String) (hname : Unticked name) : Unticked (d.identifier name) := by
    rw [Dialect.identifier_of_not_isMySQL hd]
    exact unticked_trim hname
  have hrender : Unticked (k.base.render d) := by
    cases hb : k.base with
    | column name =>
      rw [hb] at hbase
      exact hidentifier name (hbase name List.mem_cons_self)
    | call function arguments =>
      rw [hb] at hbase
      obtain ⟨hfunction, harguments⟩ := List.forall_mem_cons.mp hbase
      have hlist : Unticked (",".intercalate (arguments.map d.identifier)) := by
        rw [unticked_intercalate (by decide), List.forall_mem_map]
        exact fun name hname => hidentifier name (harguments name hname)
      simp only [KeyBase.render, unticked_append]
      exact ⟨⟨⟨hfunction, by decide⟩, hlist⟩, by decide⟩
  unfold render
  cases hl : k.label with
  | none => exact hrender
  | some label =>
    simp only [unticked_append]
    exact ⟨⟨hrender, by decide⟩, hlabel label hl⟩

/-! ## Conditions -/

/-- The backtick and the characters that one of the standard escapers rewrites. -/
def rewrittenChars : List Char :=
  ['`', '\x00', '\x08', '\n', '\r', '\t', '\x1a', '\'', '"', '\\']

/-- A character that neither standard escaper rewrites and that is no backtick. -/
def isNeutralChar (c : Char) : Bool := !rewrittenChars.contains c

/-- The null value, a truth value, an integer, or a text of neutral characters. -/
def Literal.isNeutral : Literal → Bool
  | null | bool _ | int _ | uint _ => true
  | text s => s.toList.all isNeutralChar
  | float _ | dateTime _ => false

/-- The columns have no backticks and the literals are neutral. -/
structure Condition.IsNeutral (c : Condition) : Prop where
  columns : ∀ p ∈ c.predicates, Unticked p.column
  literals : ∀ v ∈ c.literals, v.isNeutral = true

/-- A neutral character stands for itself in every dialect. -/
theorem standardChar_neutral (d : Dialect) {c : Char} (h : isNeutralChar c = true) :
    Escaper.standardChar d c = [c] := by
  have hc : c ∉ rewrittenChars := by simpa [isNeutralChar] using h
  simp only [rewrittenChars, List.mem_cons, List.not_mem_nil, or_false, not_or] at hc
  obtain ⟨-, hnul, hbackspace, hnewline, hreturn, htab, hsub, hquote, hdouble, hbackslash⟩ := hc
  unfold Escaper.standardChar
  split
  · rw [Escaper.backslashed] <;> assumption
  · rw [Escaper.doubled, if_neg hquote]

/-- A neutral text is not changed by any escaper. -/
theorem standard_neutral (d : Dialect) {s : String} (h : s.toList.all isNeutralChar = true) :
    Escaper.standard d s = s := by
  have hflat : s.toList.flatMap (Escaper.standardChar d) = s.toList.flatMap fun c => [c] :=
    List.flatMap_congr fun c hc => standardChar_neutral d (List.all_eq_true.mp h c hc)
  rw [Escaper.standard, hflat, List.flatMap_singleton', String.ofList_toList]

theorem unticked_nat_repr (n : Nat) : Unticked n.repr := by
  rw [unticked_iff, Nat.toList_repr]
  rintro c hc rfl
  have hdigit := Nat.isDigit_of_mem_toDigits (by decide) (by decide) hc
  revert hdigit
  decide

theorem unticked_int_repr (n : Int) : Unticked n.repr := by
  rw [Int.repr_eq_if]
  split
  · exact unticked_nat_repr n.toNat
  · exact unticked_append.mpr ⟨by decide, unticked_nat_repr (-n).toNat⟩

/-- PostgreSQL and MySQL have the same words for truth values, so neutral literals are alike. -/
theorem exists_literal_of_neutral {m : Dialect} (hm : m.isMySQL = true) {v : Literal}
    (hv : v.isNeutral = true) :
    ∃ text, (Style.standard m).literal v = .ok text ∧
      (Style.standard .postgresql).literal v = .ok text ∧ Unticked text := by
  cases v with
  | null => exact ⟨"NULL", rfl, rfl, by decide⟩
  | bool b =>
    have hword : m.boolWord b = Dialect.postgresql.boolWord b := by
      cases m <;> first | rfl | cases hm
    refine ⟨_, congrArg Except.ok hword, rfl, ?_⟩
    cases b <;> decide
  | int n => exact ⟨_, rfl, rfl, unticked_int_repr n.toInt⟩
  | uint n => exact ⟨_, rfl, rfl, unticked_nat_repr n.toNat⟩
  | float x => cases hv
  | text s =>
    have hquote (d : Dialect) : (Style.standard d).quote s = "'" ++ s ++ "'" := by
      show "'" ++ Escaper.standard d s ++ "'" = _
      rw [standard_neutral d hv]
    have hs : Unticked s := by
      intro htick
      have hneutral := List.all_eq_true.mp hv _ htick
      revert hneutral
      decide
    refine ⟨_, congrArg Except.ok (hquote m), congrArg Except.ok (hquote .postgresql), ?_⟩
    exact unticked_append.mpr ⟨unticked_append.mpr ⟨by decide, hs⟩, by decide⟩
  | dateTime t => cases hv

theorem exists_literals_of_neutral {m : Dialect} (hm : m.isMySQL = true) {vs : List Literal}
    (hvs : ∀ v ∈ vs, v.isNeutral = true) :
    ∃ texts, (Style.standard m).literals vs = .ok texts ∧
      (Style.standard .postgresql).literals vs = .ok texts ∧ ∀ text ∈ texts, Unticked text := by
  unfold Style.literals
  induction vs with
  | nil => exact ⟨[], rfl, rfl, by simp⟩
  | cons v vs ih =>
    obtain ⟨hv, hvs⟩ := List.forall_mem_cons.mp hvs
    obtain ⟨text, hmysql, hother, htext⟩ := exists_literal_of_neutral hm hv
    obtain ⟨texts, hmysql', hother', htexts⟩ := ih hvs
    refine ⟨text :: texts, ?_, ?_, List.forall_mem_cons.mpr ⟨htext, htexts⟩⟩
    · rw [List.mapM_cons, hmysql, hmysql']
      rfl
    · rw [List.mapM_cons, hother, hother']
      rfl

/-- A neutral operand has one text for MySQL and for the others. -/
theorem exists_operand_of_neutral {m : Dialect} (hm : m.isMySQL = true) {v : Operand}
    (hv : ∀ x ∈ v.literals, x.isNeutral = true) :
    ∃ text, v.render (.standard m) = .ok text ∧ v.render (.standard .postgresql) = .ok text ∧
      Unticked text := by
  cases v with
  | scalar x => exact exists_literal_of_neutral hm (hv x List.mem_cons_self)
  | list xs =>
    have hxs : ∀ x ∈ xs, x.isNeutral = true := hv
    obtain ⟨texts, hmysql, hother, htexts⟩ := exists_literals_of_neutral hm hxs
    refine ⟨"(" ++ ",".intercalate texts ++ ")", ?_, ?_, ?_⟩
    · rw [Operand.render, hmysql]
      rfl
    · rw [Operand.render, hother]
      rfl
    · have hlist := (unticked_intercalate (by decide : Unticked ",") texts).mpr htexts
      exact unticked_append.mpr ⟨unticked_append.mpr ⟨by decide, hlist⟩, by decide⟩
  | range low high =>
    obtain ⟨hlow, hrest⟩ := List.forall_mem_cons.mp hv
    have hhigh := hrest high List.mem_cons_self
    obtain ⟨first, hmysql, hother, hfirst⟩ := exists_literal_of_neutral hm hlow
    obtain ⟨last, hmysql', hother', hlast⟩ := exists_literal_of_neutral hm hhigh
    refine ⟨first ++ " AND " ++ last, ?_, ?_, ?_⟩
    · rw [Operand.render, hmysql, hmysql']
      rfl
    · rw [Operand.render, hother, hother']
      rfl
    · exact unticked_append.mpr ⟨unticked_append.mpr ⟨hfirst, by decide⟩, hlast⟩

theorem unticked_keyword (o : Operator) : Unticked o.keyword := by
  rcases o with c | negated | negated | negated | negated
  · cases c <;> decide
  all_goals cases negated <;> decide

/-- The texts of a neutral predicate differ in the backticks of its column. -/
theorem exists_predicate_of_neutral {m : Dialect} (hm : m.isMySQL = true) {p : Predicate}
    (hcolumn : Unticked p.column) (hliterals : ∀ v ∈ p.operand.literals, v.isNeutral = true) :
    ∃ text, p.render (.standard m) = .ok text ∧
      p.render (.standard .postgresql) = .ok (withoutBackticks text) := by
  obtain ⟨operand, hmysql, hother, hoperand⟩ := exists_operand_of_neutral hm hliterals
  have hname : withoutBackticks (m.identifier p.column) =
      Dialect.postgresql.identifier p.column := by
    rw [m.withoutBackticks_identifier, Dialect.identifier_of_not_isMySQL rfl,
      withoutBackticks_of_unticked (unticked_trim hcolumn)]
  refine ⟨m.identifier p.column ++ " " ++ p.operator.keyword ++ " " ++ operand, ?_, ?_⟩
  · rw [Predicate.render, hmysql]
    rfl
  · rw [Predicate.render, hother]
    simp only [withoutBackticks_append, hname, withoutBackticks_of_unticked hoperand,
      withoutBackticks_of_unticked (unticked_keyword p.operator),
      withoutBackticks_of_unticked (by decide : Unticked " ")]
    rfl

theorem withoutBackticks_connected (left right : String) (k : Connective) :
    withoutBackticks (left ++ " " ++ k.keyword ++ " " ++ right) =
      withoutBackticks left ++ " " ++ k.keyword ++ " " ++ withoutBackticks right := by
  have hkeyword : Unticked k.keyword := by cases k <;> decide
  simp only [withoutBackticks_append, withoutBackticks_of_unticked hkeyword,
    withoutBackticks_of_unticked (by decide : Unticked " ")]

namespace Condition

theorem IsNeutral.left {left right : Condition} {k : Connective}
    (h : (chain left k right).IsNeutral) : left.IsNeutral :=
  ⟨fun p hp => h.columns p (List.mem_append_left _ hp),
    fun v hv => h.literals v (List.mem_append_left _ hv)⟩

theorem IsNeutral.right {left right : Condition} {k : Connective}
    (h : (chain left k right).IsNeutral) : right.IsNeutral :=
  ⟨fun p hp => h.columns p (List.mem_append_right _ hp),
    fun v hv => h.literals v (List.mem_append_right _ hv)⟩

/-- The texts of a neutral condition differ in backticks only: a group has the predicates and the
literals of a chain, and parentheses around its text. -/
theorem exists_render_of_neutral {m : Dialect} (hm : m.isMySQL = true) {c : Condition}
    (hc : c.IsNeutral) :
    ∃ text, c.render (.standard m) = .ok text ∧
      c.render (.standard .postgresql) = .ok (withoutBackticks text) := by
  induction c with
  | leaf p => exact exists_predicate_of_neutral hm (hc.columns p (by simp [predicates])) hc.literals
  | group left k right ihl ihr =>
    have hchain : (chain left k right).IsNeutral := ⟨hc.columns, hc.literals⟩
    obtain ⟨l, hl, hl'⟩ := ihl hchain.left
    obtain ⟨r, hr, hr'⟩ := ihr hchain.right
    refine ⟨"(" ++ l ++ " " ++ k.keyword ++ " " ++ r ++ ")", ?_, ?_⟩
    · rw [render, hl, hr]
      rfl
    · rw [render, hl', hr', withoutBackticks_append, withoutBackticks_connected,
        withoutBackticks_append, withoutBackticks_of_unticked (by decide : Unticked "("),
        withoutBackticks_of_unticked (by decide : Unticked ")")]
      rfl
  | chain left k right ihl ihr =>
    obtain ⟨l, hl, hl'⟩ := ihl hc.left
    obtain ⟨r, hr, hr'⟩ := ihr hc.right
    refine ⟨l ++ " " ++ k.keyword ++ " " ++ r, ?_, ?_⟩
    · rw [render, hl, hr]
      rfl
    · rw [render, hl', hr', withoutBackticks_connected]
      rfl

end Condition

/-! ## Main statement -/

/-- **MySQL differs from the other dialects in backticks only.** A key without backticks is refused
with the same error by MySQL and by any other dialect, or both write it and deleting the backticks
of MySQL's text gives the other one; columns are always written so. A condition whose columns have
no backticks and whose literals are neutral is written by MySQL and by PostgreSQL, and deleting the
backticks of the first text gives the second. -/
theorem texts_differ_in_backticks {m : Dialect} (hm : m.isMySQL = true) :
    (∀ (d : Dialect) (e : String), d.isMySQL = false → Unticked e →
      ((∃ error, m.key e = .error error ∧ d.key e = .error error) ∨
        ∃ text, m.key e = .ok text ∧ d.key e = .ok (withoutBackticks text)) ∧
      d.identifier e = withoutBackticks (m.identifier e)) ∧
    ∀ c : Condition, c.IsNeutral →
      ∃ text, c.render (.standard m) = .ok text ∧
        c.render (.standard .postgresql) = .ok (withoutBackticks text) := by
  refine ⟨fun d e hd he => ⟨?_, ?_⟩, fun c hc => c.exists_render_of_neutral hm hc⟩
  · -- The expression is read in the same way, so that only what is written can differ.
    unfold Dialect.key
    cases hk : Key.parse e with
    | error fault => exact Or.inl ⟨_, rfl, rfl⟩
    | ok k =>
      obtain ⟨hbase, hlabel⟩ := Key.unticked_of_parse he hk
      have hplain := withoutBackticks_of_unticked (Key.unticked_render hd hbase hlabel)
      refine Or.inr ⟨_, rfl, congrArg Except.ok ?_⟩
      rw [k.withoutBackticks_render m d, hplain]
  · rw [m.withoutBackticks_identifier, Dialect.identifier_of_not_isMySQL hd,
      withoutBackticks_of_unticked (unticked_trim he)]

/-- Empty components, wildcards and a function with an alias; a column with a fault; a range and a
pattern in a group that is continued by a chain. -/
theorem texts_differ_in_backticks_of_parts :
    let bounds : Predicate :=
      ⟨"t..n", .between false, .range (.int (-1)) (.text "é,)"), by decide, by decide, by decide⟩
    let pattern : Predicate :=
      ⟨"s", .like true, .scalar (.text "%"), by decide, by decide, by decide⟩
    let flag : Predicate :=
      ⟨"*", .compare .equal, .scalar (.bool true), by decide, by decide, by decide⟩
    let c := Condition.chain (.group (.leaf bounds) .or (.leaf pattern)) .and (.leaf flag)
    Dialect.isMySQL .mysqli = true ∧ Unticked " f::a.*::*:: =>x y" ∧ Unticked "::a" ∧ c.IsNeutral ∧
      Dialect.mysqli.key " f::a.*::*:: =>x y" = .ok "f(`a`.*,*,``) AS x y" ∧
      Dialect.sqlite.key " f::a.*::*:: =>x y" = .ok "f(a.*,*,) AS x y" ∧
      Dialect.mysqli.key "::a" = Dialect.sqlite.key "::a" ∧
      c.render (.standard .mysqli) =
        .ok "(`t`.``.`n` BETWEEN -1 AND 'é,)' OR `s` NOT LIKE '%') AND * = TRUE" ∧
      c.render (.standard .postgresql) =
        .ok "(t..n BETWEEN -1 AND 'é,)' OR s NOT LIKE '%') AND * = TRUE" := by
  intro bounds pattern flag c
  have hm : Dialect.isMySQL .mysqli = true := rfl
  obtain ⟨hkeys, hconditions⟩ := texts_differ_in_backticks hm
  have hcall : Unticked " f::a.*::*:: =>x y" := by decide
  have hfault : Unticked "::a" := by decide
  have hc : c.IsNeutral := ⟨by decide, by decide⟩
  have hkey : Dialect.mysqli.key " f::a.*::*:: =>x y" = .ok "f(`a`.*,*,``) AS x y" := by decide
  have hkey' : Dialect.sqlite.key " f::a.*::*:: =>x y" = .ok "f(a.*,*,) AS x y" := by
    rcases (hkeys .sqlite _ rfl hcall).1 with ⟨error, herror, -⟩ | ⟨text, htext, hother⟩
    · rw [hkey] at herror
      cases herror
    · rw [hkey] at htext
      cases htext
      rw [hother]
      decide
  have hrefused : Dialect.mysqli.key "::a" = Dialect.sqlite.key "::a" := by
    rcases (hkeys .sqlite _ rfl hfault).1 with ⟨error, herror, hother⟩ | ⟨text, htext, -⟩
    · rw [herror, hother]
    · have hnone : Dialect.mysqli.key "::a" = .error (.invalidKey "::a" .emptyFunction) := by decide
      rw [hnone] at htext
      cases htext
  have hrender : c.render (.standard .mysqli) =
      .ok "(`t`.``.`n` BETWEEN -1 AND 'é,)' OR `s` NOT LIKE '%') AND * = TRUE" := by
    decide +kernel
  obtain ⟨text, htext, hother⟩ := hconditions c hc
  rw [hrender] at htext
  cases htext
  refine ⟨hm, hcall, hfault, hc, hkey, hkey', hrefused, hrender, hother.trans ?_⟩
  decide +kernel

end DialectSql
