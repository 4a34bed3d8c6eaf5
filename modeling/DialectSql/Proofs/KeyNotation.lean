import DialectSql.Proofs.Query.TablePrefix
import DialectSql.Proofs.Text.Splitting

/-!
# The notation of keys

A key is given as a column or as a function with its arguments, and an alias may follow. This module
says which texts are such expressions and what they are read as, without the steps in which
`Key.parse` reads them: `IsKeyExpression` is about the pieces of the text alone, and `Spells` is a
part of the notation with any blanks around it.

All that `Key.parse` sees of a text are its trimmed pieces (`parse_of_single`, `parse_of_pair`), and
`KeyBase.parse` those of the expression before the alias. The main statement `key_notation` has both
directions: the accepted texts are exactly the key expressions, and every expression that is put
together from parts is read as these parts.
-/

set_option autoImplicit false

namespace DialectSql

open Text

/-! ## Key expressions -/

/-- The text is an expression: there is at most one alias marker, nothing on either side of it is
blank, and neither is the name of a function, which is the text before the first function marker. -/
def IsKeyExpression (expression : String) : Prop :=
  trim expression ≠ "" ∧
    ∃ parts, SplitsInto aliasMarker (trim expression) parts ∧ parts.length ≤ 2 ∧
      (∀ part ∈ parts, trim part ≠ "") ∧
      ∀ base ∈ parts.head?, ∀ function arguments, CutAt functionMarker base function arguments →
        trim function ≠ ""

/-- The text is a name of the notation with blanks around it. -/
structure Spells (name text : String) : Prop where
  ne_empty : name ≠ ""
  trimmed : trim name = name
  no_alias_marker : ¬ Occurs aliasMarker name
  no_colon : ':' ∉ name.toList
  padded : ∃ l r, Blank l ∧ Blank r ∧ text = l ++ name ++ r

/-! ## Reading from trimmed pieces -/

namespace KeyBase

theorem map_trim_split_trim (base : String) :
    (split functionMarker (trim base)).map trim = (split functionMarker base).map trim :=
  Text.map_trim_split_trim (by decide) (by decide) base

/-- A text without a function marker is a column. -/
theorem parse_of_single {base piece : String}
    (h : (split functionMarker base).map trim = [piece]) :
    parse (trim base) = .ok (.column (trim base)) := by
  rw [← map_trim_split_trim] at h
  obtain ⟨whole, hsplit, -⟩ := List.map_eq_singleton_iff.mp h
  simp only [parse, hsplit]

/-- A text of several pieces is a call of the first one, unless that is blank. -/
theorem parse_of_pieces {base function argument : String} {arguments : List String}
    (h : (split functionMarker base).map trim = function :: argument :: arguments) :
    ∃ given, given.map trim = argument :: arguments ∧
      parse (trim base) =
        if function = "" then .error .emptyFunction else .ok (.call function given) := by
  rw [← map_trim_split_trim] at h
  obtain ⟨f, given, hsplit, rfl, hgiven⟩ := List.map_eq_cons_iff.mp h
  obtain ⟨first, rest, rfl, -, -⟩ := List.map_eq_cons_iff.mp hgiven
  refine ⟨first :: rest, hgiven, ?_⟩
  simp only [parse, hsplit, nonblank?]
  by_cases hf : trim f = ""
  · rw [if_pos hf, if_pos hf]
  · rw [if_neg hf, if_neg hf]

/-- An expression before its alias is read unless it has a function marker with nothing but blanks
before it. -/
theorem exists_parse_iff (base : String) :
    (∃ b, parse (trim base) = .ok b) ↔
      ∀ function arguments, CutAt functionMarker base function arguments → trim function ≠ "" := by
  match hsplit : split functionMarker base with
  | [] => exact absurd hsplit (by simp [split, pieces_ne_nil])
  | [whole] =>
    have hparse := parse_of_single (congrArg (List.map trim) hsplit)
    refine iff_of_true ⟨_, hparse⟩ fun function arguments hcut => ?_
    rw [split_of_cutAt (by decide) hcut] at hsplit
    exact absurd (List.cons.inj hsplit).2 (by simp [split, pieces_ne_nil])
  | f :: argument :: arguments =>
    obtain ⟨given, -, hparse⟩ := parse_of_pieces (congrArg (List.map trim) hsplit)
    obtain ⟨behind, hcut, -⟩ := (split_eq_cons_cons_iff (by decide)).mp hsplit
    rw [hparse]
    constructor
    · rintro ⟨b, hb⟩ function arguments' hcut' hblank
      -- There is one first occurrence, so this function is the one that was read.
      rw [split_of_cutAt (by decide) hcut'] at hsplit
      obtain ⟨rfl, -⟩ := List.cons.inj hsplit
      rw [if_pos hblank] at hb
      cases hb
    · intro h
      rw [if_neg (h f behind hcut)]
      exact ⟨_, rfl⟩

end KeyBase

namespace Key

variable {expression base label : String}

theorem parse_of_blank (h : trim expression = "") : parse expression = .error .emptyKey := by
  simp only [parse, nonblank?, if_pos h]
  rfl

/-- A text that is not blank is taken apart first, and then what stands before the alias is read. -/
theorem parse_of_not_blank (h : trim expression ≠ "") :
    parse expression = (parts (trim expression)).bind fun (base, label) =>
      if trim base = "" then .error .emptyBase
      else (KeyBase.parse (trim base)).map (⟨·, label⟩) := by
  have hnonblank : nonblank? expression = some (trim expression) := if_neg h
  simp only [parse, hnonblank, bind, Except.bind]
  cases parts (trim expression) with
  | error fault => rfl
  | ok found =>
    obtain ⟨base, label⟩ := found
    by_cases hbase : trim base = ""
    · have hblank : nonblank? base = none := if_pos hbase
      simp only [hblank, if_pos hbase]
      rfl
    · have hpart : nonblank? base = some (trim base) := if_neg hbase
      simp only [hpart, if_neg hbase]
      cases KeyBase.parse (trim base) <;> rfl

theorem map_trim_split_trim (expression : String) :
    (split aliasMarker (trim expression)).map trim = (split aliasMarker expression).map trim :=
  Text.map_trim_split_trim (by decide) (by decide) expression

/-- Without an alias marker the whole expression is the base. -/
theorem parse_of_single (hne : trim expression ≠ "")
    (h : (split aliasMarker (trim expression)).map trim = [base]) :
    parse expression =
      if base = "" then .error .emptyBase else (KeyBase.parse base).map (⟨·, none⟩) := by
  obtain ⟨piece, hsplit, rfl⟩ := List.map_eq_singleton_iff.mp h
  have hparts : parts (trim expression) = .ok (piece, none) := by simp only [parts, hsplit]
  simp only [parse_of_not_blank hne, hparts, Except.bind]

/-- With one alias marker the alias is looked at first, and then the base. -/
theorem parse_of_pair (hne : trim expression ≠ "")
    (h : (split aliasMarker (trim expression)).map trim = [base, label]) :
    parse expression =
      if label = "" then .error .emptyAlias
      else if base = "" then .error .emptyBase
      else (KeyBase.parse base).map (⟨·, some label⟩) := by
  obtain ⟨piece, rest, hsplit, rfl, hrest⟩ := List.map_eq_cons_iff.mp h
  obtain ⟨last, rfl, rfl⟩ := List.map_eq_singleton_iff.mp hrest
  have hparts : parts (trim expression) =
      if trim last = "" then .error .emptyAlias else .ok (piece, some (trim last)) := by
    simp only [parts, hsplit, nonblank?]
    by_cases hlast : trim last = ""
    · rw [if_pos hlast, if_pos hlast]
    · rw [if_neg hlast, if_neg hlast]
  rw [parse_of_not_blank hne, hparts]
  by_cases hlast : trim last = ""
  · rw [if_pos hlast, if_pos hlast]
    rfl
  · simp only [if_neg hlast, Except.bind]

/-- An expression with more than one alias marker is refused. -/
theorem parse_of_many {third : String} {rest : List String} (hne : trim expression ≠ "")
    (h : split aliasMarker (trim expression) = base :: label :: third :: rest) :
    parse expression = .error .severalAliasMarkers := by
  have hparts : parts (trim expression) = .error .severalAliasMarkers := by
    simp only [parts, h]
  rw [parse_of_not_blank hne, hparts]
  rfl

/-- What stands before the alias is read if it is not blank. -/
theorem exists_map_parse_iff (base : String) (label : Option String) :
    (∃ k, (if trim base = "" then .error .emptyBase
        else (KeyBase.parse (trim base)).map (⟨·, label⟩) : Except KeyFault Key) = .ok k) ↔
      trim base ≠ "" ∧ ∀ function arguments, CutAt functionMarker base function arguments →
        trim function ≠ "" := by
  rw [← KeyBase.exists_parse_iff]
  by_cases hbase : trim base = ""
  · rw [if_pos hbase]
    exact iff_of_false (by rintro ⟨k, ⟨⟩⟩) fun h => h.1 hbase
  · rw [if_neg hbase]
    cases KeyBase.parse (trim base) with
    | error fault => exact iff_of_false (by rintro ⟨k, ⟨⟩⟩) (by rintro ⟨-, b, ⟨⟩⟩)
    | ok b => exact iff_of_true ⟨_, rfl⟩ ⟨hbase, b, rfl⟩

/-- The texts that are read are the key expressions. -/
theorem exists_parse_iff (expression : String) :
    (∃ k, parse expression = .ok k) ↔ IsKeyExpression expression := by
  by_cases hne : trim expression = ""
  · rw [parse_of_blank hne]
    exact iff_of_false (by rintro ⟨k, ⟨⟩⟩) fun h => h.1 hne
  · simp only [IsKeyExpression, ← split_eq_iff (show aliasMarker ≠ "" by decide), exists_eq_left',
      ne_eq, hne, not_false_eq_true, true_and]
    match hsplit : split aliasMarker (trim expression) with
    | [] => exact absurd hsplit (by simp [split, pieces_ne_nil])
    | [base] =>
      rw [parse_of_single hne (congrArg (List.map trim) hsplit), exists_map_parse_iff]
      simp
    | [base, label] =>
      rw [parse_of_pair hne (congrArg (List.map trim) hsplit)]
      by_cases hlabel : trim label = ""
      · rw [if_pos hlabel]
        exact iff_of_false (by rintro ⟨k, ⟨⟩⟩) fun h => h.2.1 label (by simp) hlabel
      · rw [if_neg hlabel, exists_map_parse_iff]
        simp [hlabel]
    | base :: label :: third :: rest =>
      rw [parse_of_many hne hsplit]
      exact iff_of_false (by rintro ⟨k, ⟨⟩⟩) fun h => by simp at h

end Key

/-! ## Putting expressions together -/

/-- A function marker can only start with a colon. -/
theorem avoids_functionMarker_iff (s : String) :
    avoids functionMarker s = true ↔ ':' ∉ s.toList := by
  have hhead : functionMarker.toList.head? = some ':' := rfl
  simp only [avoids, hhead, List.all_eq_true, bne_iff_ne, ne_eq, Option.some.injEq]
  exact ⟨fun h hc => h ':' hc rfl, fun h c hc heq => h (heq ▸ hc)⟩

/-- A blank text has one piece. -/
theorem trim_ne_empty_of_pieces {marker s first second : String} {rest : List String}
    (h : (split marker (trim s)).map trim = first :: second :: rest) : trim s ≠ "" := by
  intro hempty
  rw [hempty] at h
  simp [split, pieces] at h

namespace Spells

variable {name text : String}

theorem trim_text (h : Spells name text) : trim text = name := by
  obtain ⟨l, r, hl, hr, rfl⟩ := h.padded
  rw [trim_blank_append_append hl hr, h.trimmed]

theorem not_occurs_aliasMarker (h : Spells name text) : ¬ Occurs aliasMarker text := by
  obtain ⟨l, r, hl, hr, rfl⟩ := h.padded
  rw [occurs_blank_append_append (by decide) (by decide) hl hr]
  exact h.no_alias_marker

/-- Neither the name nor the blanks around it have a colon. -/
theorem avoids_functionMarker (h : Spells name text) : avoids functionMarker text = true := by
  obtain ⟨l, r, hl, hr, rfl⟩ := h.padded
  have hblank {s : String} (hs : Blank s) : ':' ∉ s.toList :=
    fun hc => absurd (hs ':' hc) (by decide)
  rw [avoids_functionMarker_iff, String.toList_append, String.toList_append]
  simp [hblank hl, hblank hr, h.no_colon]

theorem map_trim {names texts : List String} (h : List.Forall₂ Spells names texts) :
    texts.map trim = names := by
  induction h with
  | nil => rfl
  | cons hfirst _ ih => rw [List.map_cons, hfirst.trim_text, ih]

theorem forall_mem {names texts : List String} {P : String → Prop}
    (h : List.Forall₂ Spells names texts) (hP : ∀ {name text}, Spells name text → P text) :
    ∀ text ∈ texts, P text := by
  induction h with
  | nil => exact List.forall_mem_nil _
  | cons hfirst _ ih => exact List.forall_mem_cons.mpr ⟨hP hfirst, ih⟩

end Spells

/-- The alias marker is found where it has been put, even behind the character it starts with. -/
theorem split_labelled {base label : String} (hbase : ¬ Occurs aliasMarker base)
    (hlabel : ¬ Occurs aliasMarker label) :
    split aliasMarker (base ++ aliasMarker ++ label) = [base, label] := by
  have hfree : ¬ aliasMarker.toList <:+: base.toList ++ aliasMarker.toList.dropLast := by
    show ¬ ['=', '>'] <:+: base.toList ++ ['=']
    rw [List.infix_concat_iff, not_or]
    refine ⟨fun hsuffix => ?_, hbase⟩
    rcases List.suffix_concat_iff.mp hsuffix with hnil | ⟨t, ht, -⟩
    · cases hnil
    · have := congrArg List.getLast? ht
      simp at this
  rw [split_of_cutAt (by decide) (cutAt_of_not_occurs hfree label), split_of_not_occurs hlabel]

section

variable {names texts : List String} (h : List.Forall₂ Spells names texts)
include h

/-- Spellings with function markers between them are split into the spellings. -/
theorem split_functionMarker (hne : texts ≠ []) :
    split functionMarker (functionMarker.intercalate texts) = texts :=
  split_intercalate (by decide) hne (Spells.forall_mem h fun hname => hname.avoids_functionMarker)

theorem not_occurs_aliasMarker_intercalate :
    ¬ Occurs aliasMarker (functionMarker.intercalate texts) := by
  have hsep : separates aliasMarker functionMarker = true := by decide
  have hnone : ∀ text ∈ texts, ¬ Occurs aliasMarker text :=
    Spells.forall_mem h fun hname => hname.not_occurs_aliasMarker
  rw [occurs_intercalate (by decide) hsep]
  rintro ⟨text, htext, hoccurs⟩
  exact hnone text htext hoccurs

end

/-- A function with its arguments is not blank and is read as these. -/
theorem KeyBase.parse_of_spells {function functionText : String}
    {arguments argumentTexts : List String} (hfunction : Spells function functionText)
    (harguments : List.Forall₂ Spells arguments argumentTexts) (hne : arguments ≠ []) :
    trim (functionMarker.intercalate (functionText :: argumentTexts)) ≠ "" ∧
      ∃ given, given.map trim = arguments ∧
        parse (trim (functionMarker.intercalate (functionText :: argumentTexts))) =
          .ok (.call function given) := by
  have hpieces := harguments.cons hfunction
  have hsplit : (split functionMarker
      (functionMarker.intercalate (functionText :: argumentTexts))).map trim =
        function :: arguments := by
    rw [split_functionMarker hpieces (List.cons_ne_nil _ _), Spells.map_trim hpieces]
  obtain ⟨first, rest, rfl⟩ := List.exists_cons_of_ne_nil hne
  obtain ⟨given, hgiven, hparse⟩ := parse_of_pieces hsplit
  rw [if_neg hfunction.ne_empty] at hparse
  rw [← map_trim_split_trim] at hsplit
  exact ⟨trim_ne_empty_of_pieces hsplit, given, hgiven, hparse⟩

namespace Key

/-- A base without an alias marker is parsed as a key without an alias. -/
theorem parse_unlabelled {base : String} (hfree : ¬ Occurs aliasMarker base)
    (hne : trim base ≠ "") : parse base = (KeyBase.parse (trim base)).map (⟨·, none⟩) := by
  have hsplit : (split aliasMarker (trim base)).map trim = [trim base] := by
    rw [split_of_not_occurs (not_occurs_trim hfree), List.map_singleton, trim_trim]
  rw [parse_of_single hne hsplit, if_neg hne]

/-- What stands behind an alias marker is the alias of the key. -/
theorem parse_labelled {base label name : String} (hfree : ¬ Occurs aliasMarker base)
    (hne : trim base ≠ "") (hlabel : Spells name label) :
    parse (base ++ aliasMarker ++ label) =
      (KeyBase.parse (trim base)).map (⟨·, some name⟩) := by
  have hsplit : (split aliasMarker (trim (base ++ aliasMarker ++ label))).map trim =
      [trim base, name] := by
    rw [map_trim_split_trim, split_labelled hfree hlabel.not_occurs_aliasMarker, List.map_cons,
      List.map_singleton, hlabel.trim_text]
  rw [parse_of_pair (trim_ne_empty_of_pieces hsplit) hsplit, if_neg hlabel.ne_empty, if_neg hne]

end Key

/-- The blanks around an argument are not written. -/
theorem KeyBase.render_call (d : Dialect) (function : String) {given arguments : List String}
    (h : given.map trim = arguments) :
    (call function given).render d =
      function ++ "(" ++ ",".intercalate (arguments.map d.identifier) ++ ")" := by
  have hidentifier : given.map d.identifier = arguments.map d.identifier := by
    rw [← h, List.map_map]
    refine List.map_congr_left fun name _ => ?_
    rw [Function.comp_apply, identifier_trim]
  rw [render, hidentifier]

theorem Dialect.key_of_parse (d : Dialect) {expression : String} {k : Key}
    (h : Key.parse expression = .ok k) : d.key expression = .ok (k.render d) := by
  simp only [key, h]

/-- A dialect writes exactly the texts that are expressions. -/
theorem Dialect.exists_key_iff (d : Dialect) (expression : String) :
    (∃ sql, d.key expression = .ok sql) ↔ IsKeyExpression expression := by
  rw [← Key.exists_parse_iff]
  unfold key
  cases Key.parse expression with
  | ok k => exact iff_of_true ⟨_, rfl⟩ ⟨k, rfl⟩
  | error fault => exact iff_of_false (by rintro ⟨sql, ⟨⟩⟩) (by rintro ⟨k, ⟨⟩⟩)

/-- **The notation of keys.** A text is accepted exactly if it is a key expression, and any other
text is refused with the text as it was given. A function with arguments, with or without an alias,
and a column with an alias are written as SQL from their names, whatever blanks stand around the
names. -/
theorem key_notation (d : Dialect) :
    (∀ expression,
      ((∃ sql, d.key expression = .ok sql) ↔ IsKeyExpression expression) ∧
        (¬ IsKeyExpression expression →
          ∃ fault, d.key expression = .error (.invalidKey expression fault))) ∧
    (∀ function functionText arguments argumentTexts, Spells function functionText →
      List.Forall₂ Spells arguments argumentTexts → arguments ≠ [] →
        let call := functionMarker.intercalate (functionText :: argumentTexts)
        let sql := function ++ "(" ++ ",".intercalate (arguments.map d.identifier) ++ ")"
        d.key call = .ok sql ∧
          ∀ label labelText, Spells label labelText →
            d.key (call ++ aliasMarker ++ labelText) = .ok (sql ++ " AS " ++ label)) ∧
    (∀ column columnText label labelText, Spells column columnText → Spells label labelText →
      d.key (columnText ++ aliasMarker ++ labelText) =
        .ok (d.identifier column ++ " AS " ++ label)) := by
  refine ⟨fun expression => ⟨d.exists_key_iff expression, ?_⟩, ?_, ?_⟩
  · intro hnot
    rw [← Key.exists_parse_iff] at hnot
    unfold Dialect.key
    cases hparse : Key.parse expression with
    | ok k => exact absurd ⟨k, hparse⟩ hnot
    | error fault => exact ⟨fault, rfl⟩
  · -- With or without an alias the same expression is read, and the alias is put behind it.
    intro function functionText arguments argumentTexts hfunction harguments hne call sql
    obtain ⟨hcall, given, hgiven, hparse⟩ :=
      KeyBase.parse_of_spells hfunction harguments hne
    have hfree := not_occurs_aliasMarker_intercalate (harguments.cons hfunction)
    have hsql : (KeyBase.call function given).render d = sql :=
      KeyBase.render_call d function hgiven
    constructor
    · have hkey := Key.parse_unlabelled hfree hcall
      rw [hparse] at hkey
      rw [d.key_of_parse hkey, ← hsql]
      rfl
    · intro label labelText hlabel
      have hkey := Key.parse_labelled hfree hcall hlabel
      rw [hparse] at hkey
      rw [d.key_of_parse hkey, ← hsql]
      rfl
  · intro column columnText label labelText hcolumn hlabel
    have hbase : trim columnText ≠ "" := hcolumn.trim_text ▸ hcolumn.ne_empty
    have hsingle : split functionMarker columnText = [columnText] :=
      split_of_not_occurs (not_occurs_of_avoids (by decide) hcolumn.avoids_functionMarker)
    have hparse := KeyBase.parse_of_single (congrArg (List.map trim) hsingle)
    have hkey := Key.parse_labelled hcolumn.not_occurs_aliasMarker hbase hlabel
    rw [hparse] at hkey
    rw [d.key_of_parse hkey, hcolumn.trim_text]
    rfl

/-- Names that start or end with a character of the alias marker, and a function without a name. -/
theorem key_notation_of_hostile_names :
    Spells "f" " f " ∧ List.Forall₂ Spells [">b", "a="] ["\t>b", "a="] ∧ Spells ">s" ">s\n" ∧
      Dialect.mysqli.key " f ::\t>b::a=" = .ok "f(`>b`,`a=`)" ∧
      Dialect.mysqli.key " f ::\t>b::a==>>s\n" = .ok "f(`>b`,`a=`) AS >s" ∧
      Dialect.mysqli.key "a==>>s\n" = .ok "`a=` AS >s" ∧
      ∃ fault, Dialect.mysqli.key " :::a" = .error (.invalidKey " :::a" fault) := by
  have hf : Spells "f" " f " := ⟨by decide, by decide, by decide, by decide, " ", " ", by decide⟩
  have ha : Spells "a=" "a=" := ⟨by decide, by decide, by decide, by decide, "", "", by decide⟩
  have hb : Spells ">b" "\t>b" :=
    ⟨by decide, by decide, by decide, by decide, "\t", "", by decide⟩
  have hs : Spells ">s" ">s\n" :=
    ⟨by decide, by decide, by decide, by decide, "", "\n", by decide⟩
  have hba : List.Forall₂ Spells [">b", "a="] ["\t>b", "a="] := .cons hb (.cons ha .nil)
  obtain ⟨hlanguage, hcall, hcolumn⟩ := key_notation .mysqli
  obtain ⟨hunlabelled, hlabelled⟩ := hcall "f" " f " _ _ hf hba (by decide)
  have hexpression : functionMarker.intercalate [" f ", "\t>b", "a="] = " f ::\t>b::a=" := by
    decide
  have hexpression' : " f ::\t>b::a=" ++ aliasMarker ++ ">s\n" = " f ::\t>b::a==>>s\n" := by
    decide
  have hexpression'' : "a=" ++ aliasMarker ++ ">s\n" = "a==>>s\n" := by decide
  have hsql : "f" ++ "(" ++ ",".intercalate ([">b", "a="].map Dialect.mysqli.identifier) ++ ")" =
      "f(`>b`,`a=`)" := by decide
  have hsql' : "f(`>b`,`a=`)" ++ " AS " ++ ">s" = "f(`>b`,`a=`) AS >s" := by decide
  have hsql'' : Dialect.mysqli.identifier "a=" ++ " AS " ++ ">s" = "`a=` AS >s" := by decide
  have hcall' := hlabelled ">s" ">s\n" hs
  have hcolumn' := hcolumn "a=" "a=" ">s" ">s\n" ha hs
  rw [hexpression, hsql] at hunlabelled
  rw [hexpression, hexpression', hsql, hsql'] at hcall'
  rw [hexpression'', hsql''] at hcolumn'
  have hnot : ¬ IsKeyExpression " :::a" := by
    rw [← (hlanguage " :::a").1]
    rintro ⟨sql, hsql⟩
    have hrefused : Dialect.mysqli.key " :::a" = .error (.invalidKey " :::a" .emptyFunction) := by
      decide
    rw [hrefused] at hsql
    cases hsql
  exact ⟨hf, hba, hs, hunlabelled, hcall', hcolumn', (hlanguage " :::a").2 hnot⟩

end DialectSql
