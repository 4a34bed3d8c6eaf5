import DialectSql.Proofs.Query.Refusal
import DialectSql.Proofs.Statement.Completeness

/-!
# Text literals in statements

Some literals are texts between quotes, to which the escaper is applied (`Literal.quoted`). The
escaper has no other part in a statement. A text that depends on the escaper `Quotes` a list of
texts if it is made of pieces that do not depend on it and of these texts, in order, each of them
escaped and between quotes.

The main statement `exists_pieces` says which texts a statement quotes when it is built: those of
the values of its condition, or of the default values of its columns.
-/

set_option autoImplicit false

namespace DialectSql

open Text

/-! ## Texts that depend on the escaper -/

/-- A piece of a text: written already, or a text literal that is still to be escaped. -/
inductive Piece where
  | plain (text : String)
  | literal (text : String)
deriving DecidableEq, Repr

namespace Piece

/-- A piece as an escaper writes it. -/
def write (e : Escaper) : Piece → String
  | plain s => s
  | literal s => "'" ++ e s ++ "'"

/-- The text of a literal. -/
def quoted? : Piece → Option String
  | plain _ => none
  | literal s => some s

end Piece

/-- Pieces as an escaper writes them, one after the other. -/
def writePieces (e : Escaper) (pieces : List Piece) : String :=
  String.join (pieces.map (Piece.write e))

/-- The texts of the literals among some pieces. -/
def quotedTexts (pieces : List Piece) : List String := pieces.filterMap Piece.quoted?

/-- The texts that stand in a text, in order, each escaped and between quotes, while nothing else of
it depends on the escaper. -/
def Quotes (texts : List String) (text : Escaper → String) : Prop :=
  ∃ pieces, quotedTexts pieces = texts ∧ ∀ e, text e = writePieces e pieces

namespace Quotes

variable {texts texts' : List String} {text text' : Escaper → String}

theorem plain (s : String) : Quotes [] fun _ => s :=
  ⟨[.plain s], rfl, fun _ => by simp [writePieces, Piece.write]⟩

theorem literal (s : String) : Quotes [s] fun e => "'" ++ e s ++ "'" :=
  ⟨[.literal s], rfl, fun _ => by simp [writePieces, Piece.write]⟩

/-- Two texts with quoted texts in them have those of both. -/
theorem append (h : Quotes texts text) (h' : Quotes texts' text') :
    Quotes (texts ++ texts') fun e => text e ++ text' e := by
  obtain ⟨pieces, rfl, hwrite⟩ := h
  obtain ⟨pieces', rfl, hwrite'⟩ := h'
  refine ⟨pieces ++ pieces', List.filterMap_append, fun e => ?_⟩
  simp only [hwrite, hwrite', writePieces, List.map_append, String.join_append]

theorem before (h : Quotes texts text) (s : String) : Quotes texts fun e => text e ++ s := by
  simpa using h.append (plain s)

theorem after (h : Quotes texts text) (s : String) : Quotes texts fun e => s ++ text e :=
  (plain s).append h

/-- Items with a separator between them. -/
theorem intercalate {α : Type} {items : List α} {texts : α → List String}
    {outs : List (Escaper → String)}
    (h : List.Forall₂ (fun a out => Quotes (texts a) out) items outs) (separator : String) :
    Quotes (items.flatMap texts) fun e => separator.intercalate (outs.map fun out => out e) := by
  induction h with
  | nil => exact plain ""
  | @cons a out items outs hfirst hrest ih =>
    rw [List.flatMap_cons]
    cases hrest with
    | nil => simpa using hfirst
    | cons hsecond hrest =>
      simp only [List.map_cons, String.intercalate_cons_cons]
      exact (hfirst.before separator).append ih

end Quotes

/-- What is computed under each escaper, if it is never refused and quotes the given texts. -/
def Writes (texts : List String) (x : Escaper → Except Error String) : Prop :=
  ∃ text, Quotes texts text ∧ ∀ e, x e = .ok (text e)

/-- A list of items that can be written is written under every escaper. -/
theorem exists_outs_of_writes {α : Type} {items : List α} {texts : α → List String}
    {x : α → Escaper → Except Error String} (h : ∀ a ∈ items, Writes (texts a) (x a)) :
    ∃ outs : List (Escaper → String),
      List.Forall₂ (fun a out => Quotes (texts a) out) items outs ∧
        ∀ e, (items.mapM fun a => x a e) = .ok (outs.map fun out => out e) := by
  induction items with
  | nil => exact ⟨[], .nil, fun _ => rfl⟩
  | cons a items ih =>
    obtain ⟨out, hout, hx⟩ := h a List.mem_cons_self
    obtain ⟨outs, houts, hitems⟩ := ih fun b hb => h b (List.mem_cons_of_mem a hb)
    refine ⟨out :: outs, .cons hout houts, fun e => ?_⟩
    rw [List.mapM_cons, hx e, hitems e]
    rfl

/-! ## Values -/

/-- The texts that stand between quotes in a literal. -/
def Literal.quoted (d : Dialect) : Literal → List String
  | .text s => [s]
  | .dateTime t => [t.body d]
  | _ => []

variable {d : Dialect}

/-- A literal stands in quotes if it is a text or a date-time, and no escaper sees any other. -/
theorem writes_literal {v : Literal} (h : v.fault? = none) :
    Writes (v.quoted d) fun e => Style.literal ⟨d, e⟩ v := by
  cases v with
  | null => exact ⟨_, .plain "NULL", fun _ => rfl⟩
  | bool b => exact ⟨_, .plain (d.boolWord b), fun _ => rfl⟩
  | int n => exact ⟨_, .plain n.toInt.repr, fun _ => rfl⟩
  | uint n => exact ⟨_, .plain n.toNat.repr, fun _ => rfl⟩
  | float x =>
    refine ⟨_, .plain x.text, fun _ => ?_⟩
    rw [Literal.fault?] at h
    split at h
    · next hx => exact if_pos hx
    · cases h
  | text s => exact ⟨_, .literal s, fun _ => rfl⟩
  | dateTime t =>
    by_cases horacle : d = .oracle
    · refine ⟨_, ((Quotes.literal (t.body d)).after "TO_TIMESTAMP(").before
        ", 'YYYY-MM-DD HH24:MI:SS')", fun e => ?_⟩
      simp only [Style.literal, Style.dateTime, Style.quote, if_pos horacle]
    · refine ⟨_, .literal (t.body d), fun e => ?_⟩
      simp only [Style.literal, Style.dateTime, Style.quote, if_neg horacle]

/-- An operand quotes what its literals quote, in their order. -/
theorem writes_operand {v : Operand} (h : ∀ x ∈ v.literals, x.fault? = none) :
    Writes (v.literals.flatMap (Literal.quoted d)) fun e => v.render ⟨d, e⟩ := by
  cases v with
  | scalar v =>
    rw [Operand.literals, List.flatMap_singleton]
    exact writes_literal (h v (List.mem_singleton_self v))
  | list vs =>
    rw [Operand.literals] at h ⊢
    obtain ⟨outs, houts, hvs⟩ :=
      exists_outs_of_writes fun v hv => writes_literal (d := d) (h v hv)
    refine ⟨_, ((Quotes.intercalate houts ",").after "(").before ")", fun e => ?_⟩
    simp only [Operand.render, Style.literals, hvs e]
    rfl
  | range low high =>
    obtain ⟨lowText, hlow, hx⟩ := writes_literal (d := d) (h low (by simp [Operand.literals]))
    obtain ⟨highText, hhigh, hy⟩ := writes_literal (d := d) (h high (by simp [Operand.literals]))
    refine ⟨fun e => lowText e ++ " AND " ++ highText e, ?_, fun e => ?_⟩
    · simpa [Operand.literals] using (hlow.before " AND ").append hhigh
    · simp only [Operand.render, hx e, hy e]
      rfl

/-- A condition quotes the texts of its values. -/
theorem writes_condition {c : Condition} (h : ∀ x ∈ c.literals, x.fault? = none) :
    Writes (c.literals.flatMap (Literal.quoted d)) fun e => c.render ⟨d, e⟩ := by
  induction c with
  | leaf p =>
    obtain ⟨text, htext, hx⟩ := writes_operand (d := d) h
    refine ⟨_, htext.after (d.identifier p.column ++ " " ++ p.operator.keyword ++ " "),
      fun e => ?_⟩
    simp only [Condition.render, Predicate.render, hx e]
    rfl
  | group left k right ihl ihr =>
    rw [Condition.literals] at h ⊢
    obtain ⟨l, hl, hleft⟩ := ihl fun x hx => h x (List.mem_append_left _ hx)
    obtain ⟨r, hr, hright⟩ := ihr fun x hx => h x (List.mem_append_right _ hx)
    refine ⟨fun e => "(" ++ l e ++ " " ++ k.keyword ++ " " ++ r e ++ ")", ?_, fun e => ?_⟩
    · rw [List.flatMap_append]
      exact (((((hl.after "(").before " ").before k.keyword).before " ").append hr).before ")"
    · simp only [Condition.render, hleft e, hright e]
      rfl
  | chain left k right ihl ihr =>
    rw [Condition.literals] at h ⊢
    obtain ⟨l, hl, hleft⟩ := ihl fun x hx => h x (List.mem_append_left _ hx)
    obtain ⟨r, hr, hright⟩ := ihr fun x hx => h x (List.mem_append_right _ hx)
    refine ⟨fun e => l e ++ " " ++ k.keyword ++ " " ++ r e, ?_, fun e => ?_⟩
    · rw [List.flatMap_append]
      exact (((hl.before " ").before k.keyword).before " ").append hr
    · simp only [Condition.render, hleft e, hright e]
      rfl

/-! ## Columns -/

/-- Among separated items one item stands between two texts that do not depend on it. -/
theorem exists_around (separator : String) (before after : List String) :
    ∃ pre post, ∀ s, separator.intercalate (before ++ [s] ++ after) = pre ++ s ++ post := by
  induction before with
  | nil =>
    cases after with
    | nil => exact ⟨"", "", fun s => by simp⟩
    | cons next after =>
      exact ⟨"", separator ++ separator.intercalate (next :: after), fun s => by
        simp [String.append_assoc]⟩
  | cons first before ih =>
    obtain ⟨pre, post, h⟩ := ih
    refine ⟨first ++ separator ++ pre, post, fun s => ?_⟩
    have hne : before ++ [s] ++ after ≠ [] := by simp
    rw [List.cons_append, List.cons_append, String.intercalate_cons_of_ne_nil hne, h]
    simp only [String.append_assoc]

/-- A definition quotes the text of its default value. -/
theorem writes_column {col : Column} (h : col.fault? = none) :
    Writes (col.default.toList.flatMap (Literal.quoted d)) fun e => col.render ⟨d, e⟩ := by
  obtain ⟨hvalidate, hdefault⟩ := Option.or_eq_none_iff.mp h
  obtain ⟨⟨⟩, hvalid⟩ := refusal_eq_none_iff.mp hvalidate
  let before := [d.quoteIdentifier col.name, col.typePart d] ++ col.unsignedPart d ++
    col.zerofillPart d ++ col.charsetPart d ++ col.collationPart d ++ col.notNullPart
  let after := col.autoIncrementPart d ++ col.uniquePart ++ col.primaryKeyPart d
  -- The default value is the only part that an escaper can have to do with.
  have hrender (e : Escaper) : col.render ⟨d, e⟩ =
      (col.defaultPart ⟨d, e⟩).map fun part => " ".intercalate (before ++ part ++ after) := by
    rw [Column.render, hvalid]
    cases col.defaultPart ⟨d, e⟩ with
    | error e => rfl
    | ok part =>
      simp only [before, after, ← List.append_assoc]
      rfl
  simp only [hrender, Column.defaultPart]
  cases hv : col.default with
  | none => exact ⟨_, .plain _, fun _ => rfl⟩
  | some v =>
    rw [hv] at hdefault
    obtain ⟨text, htext, hx⟩ := writes_literal (d := d) hdefault
    obtain ⟨pre, post, haround⟩ := exists_around " " before after
    refine ⟨fun e => pre ++ ("DEFAULT " ++ text e) ++ post, ?_, fun e => ?_⟩
    · simpa using ((htext.after "DEFAULT ").after pre).before post
    · simp only [← haround, hx e]
      rfl

/-! ## Statements -/

/-- The definitions of a new table quote the texts of their default values. -/
theorem writes_create {st : Style} {s : CreateTable} {text : String}
    (h : s.build st (.placeholder st) = .ok text) :
    Writes ((s.columns.filterMap Column.default).flatMap (Literal.quoted st.dialect)) fun e =>
      s.build ⟨st.dialect, e⟩ (.placeholder ⟨st.dialect, e⟩) := by
  have hrefusal := refusal_eq_none_iff.mpr ⟨text, h⟩
  rw [refusal_create, Option.or_eq_none_iff, Option.or_eq_none_iff] at hrefusal
  obtain ⟨hname, hsome, hcolumns⟩ := hrefusal
  obtain ⟨name, hname⟩ := refusal_eq_none_iff.mp hname
  have hne : s.columns ≠ [] := by
    intro hnone
    rw [if_pos hnone] at hsome
    cases hsome
  obtain ⟨outs, houts, hdefinitions⟩ := exists_outs_of_writes fun col hcol =>
    writes_column (d := st.dialect) (List.findSome?_eq_none_iff.mp hcolumns col hcol)
  have hquotes := Quotes.intercalate houts ", "
  rw [← List.flatMap_assoc, ← List.filterMap_eq_flatMap_toList] at hquotes
  let opening := "CREATE TABLE" ++
    (if s.ifNotExists && st.dialect.createsIfNotExists then " IF NOT EXISTS" else "") ++ " " ++
    st.dialect.tableReference tablePlaceholder name ++ " ("
  let engine := if st.dialect.isMySQL then
    clauseOfAll "ENGINE" "" (s.engine.bind nonblank?).toList else ""
  refine ⟨_, ((hquotes.after opening).before ")").before engine, fun e => ?_⟩
  simp only [CreateTable.build_eq_buildInFull, CreateTable.buildInFull, hname, ok_bind, if_neg hne,
    hdefinitions e]
  rfl

namespace Query

variable {q : Query} {o : Operation} {p : Parameters} {text : String}

/-- A restricted statement quotes the texts of the values of its condition. -/
theorem writes_restricted (ho : restrictable o = true) (h : q.template o p = .ok text) :
    Writes ((q.fragments.condition.elim [] Condition.literals).flatMap (Literal.quoted q.dialect))
      fun e => (q.escapedBy e).template o p := by
  obtain ⟨r, -, hr⟩ := q.exists_frame ho p
  have htemplate (e : Escaper) : (q.escapedBy e).template o p =
      (q.escapedBy e).conditionSql >>= fun w => r.map (framed w) := hr q.fragments.condition e
  obtain ⟨w, hw, hframe⟩ := exists_of_bind_eq_ok ((htemplate q.style.escaper).symm.trans h)
  obtain ⟨parts, hparts, -⟩ := exists_of_map_eq_ok hframe
  cases hc : q.fragments.condition with
  | none =>
    refine ⟨_, .plain (framed none parts), fun e => (htemplate e).trans ?_⟩
    have hsql : (q.escapedBy e).conditionSql = .ok none := by
      simp only [conditionSql, escapedBy, hc]
    rw [hsql, hparts]
    rfl
  | some c =>
    have hfault : c.literals.findSome? Literal.fault? = none := by
      have hnone : refusal q.conditionSql = none := refusal_eq_none_iff.mpr ⟨w, hw⟩
      rw [refusal_conditionSql, Outline.conditionFault?] at hnone
      simpa [Fragments.outline, hc] using hnone
    obtain ⟨body, hbody, hrender⟩ :=
      writes_condition (d := q.dialect) (List.findSome?_eq_none_iff.mp hfault)
    refine ⟨_, ((hbody.after (" " ++ "WHERE" ++ " ")).after parts.1).before parts.2,
      fun e => (htemplate e).trans ?_⟩
    have hsql : (q.escapedBy e).conditionSql = .ok (some (body e)) := by
      have hrender : c.render ⟨q.dialect, e⟩ = .ok (body e) := hrender e
      simp only [dialect] at hrender
      simp only [conditionSql, escapedBy, hc, hrender]
      rfl
    rw [hsql, hparts]
    show Except.ok (parts.1 ++ clause "WHERE" (body e) ++ parts.2) = _
    rw [clause_of_ne_empty (Condition.render_ne_empty (hrender e))]

/-- A statement quotes the texts of the values that are written when it is built. The one text
literal besides these is a name, which SQLite needs to empty a table. -/
theorem writes_template (ho : o ≠ .truncate) (h : q.template o p = .ok text) :
    Writes ((q.fragments.outline.pending o).flatMap (Literal.quoted q.dialect)) fun e =>
      (q.escapedBy e).template o p := by
  cases o with
  | get => exact writes_restricted rfl h
  | update => exact writes_restricted rfl h
  | delete => exact writes_restricted rfl h
  | create => exact writes_create h
  | store => exact ⟨_, .plain text, fun _ => h⟩
  | drop => exact ⟨_, .plain text, fun _ => h⟩
  | truncate => exact absurd rfl ho

/-- **What a statement quotes.** A statement that is built under one escaper is built of the same
pieces under every other one, and the text literals among them are those of the values that are
written when it is built. The prefix of the table names is put into all of the text at last. -/
theorem exists_pieces (ho : o ≠ .truncate) (h : q.sql o p = .ok text) :
    ∃ pieces,
      quotedTexts pieces =
        (q.fragments.outline.pending o).flatMap (Literal.quoted q.dialect) ∧
      ∀ e, (q.escapedBy e).sql o p =
        .ok (replace tablePlaceholder q.tablePrefix (writePieces e pieces)) := by
  rw [sql_eq_map] at h
  obtain ⟨template, htemplate, -⟩ := exists_of_map_eq_ok h
  obtain ⟨_, ⟨pieces, htexts, hwrite⟩, hwrites⟩ := writes_template ho htemplate
  refine ⟨pieces, htexts, fun e => sql_of_template ?_⟩
  rw [← hwrite e]
  exact hwrites e

end Query

end DialectSql
