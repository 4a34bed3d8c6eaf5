import DialectSql.Proofs.Query.Portability
import DialectSql.Proofs.Query.Selection

/-!
# The order in front of a limit

SQL Server skips and takes rows (`OFFSET … FETCH`) only behind an `ORDER BY`. A selection has one
from its items, and the limit brings one of its own that changes nothing where there is no item. The
first is left out if the text of the items is empty, the second if there is an item. The two differ
for the one list that has an item and no text, a single empty item: then neither is written.

The main statement `build_limited_sqlServer` says so of all selections. The items of a query are
never empty, so its selections always have an order in front of their limit
(`get_limited_sqlServer`).
-/

set_option autoImplicit false

namespace DialectSql

/-- A list of items has no text if there is no item, or a single one that is empty. -/
theorem intercalate_eq_empty_iff {separator : String} (h : separator ≠ "") (items : List String) :
    separator.intercalate items = "" ↔ items = [] ∨ items = [""] := by
  cases items with
  | nil => simp
  | cons first rest =>
    cases rest with
    | nil => simp
    | cons second rest =>
      simp [String.intercalate_cons_cons, String.append_eq_empty_iff, h]

/-- The clause that skips rows and takes the next ones. -/
def fetchClause (limit offset : Nat) : String :=
  " OFFSET " ++ offset.repr ++ " ROWS FETCH NEXT " ++ limit.repr ++ " ROWS ONLY"

theorem limitClause_sqlServer {limit : Nat} (hlimit : limit ≠ 0) (offset : Nat) (ordered : Bool) :
    limitClause .sqlServer limit offset ordered =
      (if ordered then "" else " ORDER BY 1") ++ fetchClause limit offset := by
  simp [limitClause, fetchClause, hlimit, String.append_assoc]

namespace Select

/-- The selection without its order and its limit. -/
def unordered (s : Select) : Select := { s with orderBy := [], limit := 0, offset := 0 }

/-- The order that a limit needs in front of it: the one of the items if they have a text, and else
one that changes nothing. -/
def orderOrFirst (s : Select) : String :=
  if ", ".intercalate s.orderBy = "" then " ORDER BY 1"
  else " ORDER BY " ++ ", ".intercalate s.orderBy

theorem orderOrFirst_ne_empty (s : Select) : s.orderOrFirst ≠ "" := by
  unfold orderOrFirst
  split
  · decide
  · simp [String.append_eq_empty_iff]

/-- The clause of the items and the one that the limit brings are the order that the limit needs,
unless there is a single item and it is empty. -/
theorem order_eq (s : Select) :
    clause "ORDER BY" (", ".intercalate s.orderBy) ++
        (if !s.orderBy.isEmpty then "" else " ORDER BY 1") =
      if s.orderBy = [""] then "" else s.orderOrFirst := by
  unfold orderOrFirst
  by_cases htext : ", ".intercalate s.orderBy = ""
  · rcases (intercalate_eq_empty_iff (by decide) s.orderBy).mp htext with hnone | hempty
    · simp [hnone]
    · simp [hempty]
  · obtain ⟨hitems, hempty⟩ :=
      not_or.mp ((intercalate_eq_empty_iff (by decide) s.orderBy).not.mp htext)
    simp [clause_of_ne_empty htext, htext, hitems, hempty]

theorem order_append_limit {s : Select} (hlimit : s.limit ≠ 0) :
    clause "ORDER BY" (", ".intercalate s.orderBy) ++
        limitClause .sqlServer s.limit s.offset (!s.orderBy.isEmpty) =
      (if s.orderBy = [""] then "" else s.orderOrFirst) ++ fetchClause s.limit s.offset := by
  rw [limitClause_sqlServer hlimit, ← String.append_assoc, order_eq]

/-- A selection that is not refused starts with the selection without order and limit: the checks
look at neither. -/
theorem exists_opening {d : Dialect} {n : TableNaming} {s : Select} {sql : String}
    (h : s.build d n = .ok sql) :
    ∃ opening, s.unordered.build d n = .ok opening ∧
      sql = opening ++ (clause "ORDER BY" (", ".intercalate s.orderBy) ++
        limitClause d s.limit s.offset (!s.orderBy.isEmpty)) := by
  -- The order is the fourth clause.
  have hback : String.join ((s.unordered.clauses d).drop 3) = "" := by
    simp [clauses, unordered, limitClause]
  obtain ⟨start, hstart, rfl⟩ := exists_cut h 3 s.unordered rfl (fun _ => rfl) rfl hback
  exact ⟨start, hstart, by simp [clauses]⟩

/-- **The order in front of a limit of SQL Server.** A limited selection that is not refused is the
same selection without order and limit, then the order, then the rows that are skipped and taken.
The order is the one that the limit needs, except that it is missing where the only item is an empty
text. -/
theorem build_limited_sqlServer {n : TableNaming} {s : Select} (hlimit : s.limit ≠ 0) {sql : String}
    (h : s.build .sqlServer n = .ok sql) :
    ∃ opening, s.unordered.build .sqlServer n = .ok opening ∧
      sql = opening ++ (if s.orderBy = [""] then "" else s.orderOrFirst) ++
        fetchClause s.limit s.offset ∧
      (sql = opening ++ s.orderOrFirst ++ fetchClause s.limit s.offset ↔ s.orderBy ≠ [""]) := by
  obtain ⟨opening, hopening, hsql⟩ := exists_opening h
  rw [order_append_limit hlimit, ← String.append_assoc] at hsql
  refine ⟨opening, hopening, hsql, ?_⟩
  rw [hsql, String.append_left_inj, String.append_right_inj]
  constructor
  · intro horder hempty
    rw [if_pos hempty] at horder
    exact s.orderOrFirst_ne_empty horder.symm
  · intro hempty
    rw [if_neg hempty]

/-- Two empty items have a comma between them, and without any item the limit brings the order. -/
theorem build_limited_sqlServer_commas :
    let n := TableNaming.placeholder (.standard .sqlServer)
    let commas : Select :=
      { table := some "t", keys := ["a"], orderBy := ["", ""], limit := 3, offset := 6 }
    let plain : Select := { table := some "t", keys := ["a"], limit := 3 }
    commas.limit ≠ 0 ∧ plain.limit ≠ 0 ∧
      commas.build .sqlServer n =
        .ok "SELECT a FROM *_DBPREFIX_*t ORDER BY ,  OFFSET 6 ROWS FETCH NEXT 3 ROWS ONLY" ∧
      plain.build .sqlServer n =
        .ok "SELECT a FROM *_DBPREFIX_*t ORDER BY 1 OFFSET 0 ROWS FETCH NEXT 3 ROWS ONLY" := by
  intro n commas plain
  have hcommas : commas.limit ≠ 0 := by decide
  have hplain : plain.limit ≠ 0 := by decide
  have hbuild : commas.build .sqlServer n = .ok (commas.text .sqlServer n "t") := rfl
  have hbuild' : plain.build .sqlServer n = .ok (plain.text .sqlServer n "t") := rfl
  have hopening : commas.unordered.build .sqlServer n = .ok "SELECT a FROM *_DBPREFIX_*t" := by rfl
  have hopening' : plain.unordered.build .sqlServer n = .ok "SELECT a FROM *_DBPREFIX_*t" := by rfl
  obtain ⟨opening, hunordered, -, horder⟩ := build_limited_sqlServer hcommas hbuild
  obtain ⟨opening', hunordered', -, horder'⟩ := build_limited_sqlServer hplain hbuild'
  obtain rfl := Except.ok.inj (hunordered.symm.trans hopening)
  obtain rfl := Except.ok.inj (hunordered'.symm.trans hopening')
  refine ⟨hcommas, hplain, ?_, ?_⟩
  · rw [hbuild, horder.mpr (by decide)]
    exact congrArg Except.ok (by decide)
  · rw [hbuild', horder'.mpr (by decide)]
    exact congrArg Except.ok (by decide)

/-- A single empty item has no text, but it is an item: no order is written. -/
theorem build_limited_sqlServer_of_empty_item :
    let n := TableNaming.placeholder (.standard .sqlServer)
    let s : Select := { table := some "t", keys := ["a"], orderBy := [""], limit := 3 }
    s.limit ≠ 0 ∧ ", ".intercalate s.orderBy = "" ∧
      s.unordered.build .sqlServer n = .ok "SELECT a FROM *_DBPREFIX_*t" ∧
      s.build .sqlServer n =
        .ok "SELECT a FROM *_DBPREFIX_*t OFFSET 0 ROWS FETCH NEXT 3 ROWS ONLY" ∧
      "SELECT a FROM *_DBPREFIX_*t" ++ " ORDER BY 1" ++ fetchClause s.limit s.offset ≠
        "SELECT a FROM *_DBPREFIX_*t OFFSET 0 ROWS FETCH NEXT 3 ROWS ONLY" := by
  intro n s
  exact ⟨by decide, by decide, by rfl, congrArg Except.ok (by decide), by decide⟩

end Select

namespace Session

/-- In SQL Server every limited selection of a query has an order in front of its limit: the items
of a query are not empty. -/
theorem get_limited_sqlServer (e : Escaper) (calls : List Call) {p : Parameters}
    (hlimit : p.limit ≠ 0) {sql : String} :
    let q := (Session.run { query := .withEscaper .sqlServer e } calls).query
    q.template .get p = .ok sql →
      ∃ w opening, q.conditionSql = .ok w ∧
        (q.selection p w).unordered.build .sqlServer (.placeholder q.style) = .ok opening ∧
        sql = opening ++ (q.selection p w).orderOrFirst ++ fetchClause p.limit p.offset := by
  intro q h
  have hq : q.fragments.WellFormed := wellFormed_run Fragments.wellFormed_empty calls
  have hdialect : q.dialect = .sqlServer := congrArg Style.dialect (style_run _ calls)
  rw [Query.template_get_eq] at h
  obtain ⟨w, hw, hbuild⟩ := exists_of_bind_eq_ok h
  rw [hdialect] at hbuild
  have hitems : (q.selection p w).orderBy ≠ [""] := by
    intro hempty
    have hmem : "" ∈ (q.selection p w).orderBy := hempty ▸ List.mem_singleton_self ""
    exact hq.orderBy "" hmem rfl
  obtain ⟨opening, hopening, hsql⟩ := Select.exists_opening hbuild
  rw [Select.order_append_limit hlimit, if_neg hitems, ← String.append_assoc] at hsql
  exact ⟨w, opening, hw, hopening, hsql⟩

end Session

end DialectSql
