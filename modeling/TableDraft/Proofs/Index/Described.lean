import Mathlib.Data.List.Perm.Basic
import TableDraft.Proofs.Index.Group

namespace TableDraft.Index

/-- The rows of the index `name`, in their order. -/
def rowsOf (name : String) (rows : List IndexRow) : List IndexRow :=
  rows.filter fun r => r.indexName? == some name

/-- The type that a row gives to an index that is neither unique nor a full-text index. -/
def reportedType (r : IndexRow) : String :=
  (r.indexType.filter (· ≠ "")).getD "INDEX"

/-- The index that its rows describe. The first row tells whether it is unique and what type it has,
unless one of the rows is a full-text row. -/
def described? (name : String) (rows : List IndexRow) : Option Index :=
  rows.head?.map fun first =>
    { name
      type :=
        if rows.any IndexRow.isFulltext then "FULLTEXT"
        else if first.nonUnique then reportedType first
        else "UNIQUE"
      unique := !first.nonUnique
      columns := (rows.map IndexRow.columnName).eraseDups }

@[simp] theorem name_opened (name : String) (r : IndexRow) : (opened name r).name = name := rfl

@[simp] theorem unique_opened (name : String) (r : IndexRow) :
    (opened name r).unique = !r.nonUnique := rfl

@[simp] theorem columns_opened (name : String) (r : IndexRow) : (opened name r).columns = [] := rfl

theorem type_opened (name : String) (r : IndexRow) :
    (opened name r).type = if r.nonUnique then reportedType r else "UNIQUE" := by
  unfold opened reportedType
  cases r.indexType with
  | none => rfl
  | some t => by_cases ht : t = "" <;> simp [ht, Option.filter_some]

/-- One row more opens the index, or is taken in by it. -/
theorem described?_concat (name : String) (rows : List IndexRow) (r : IndexRow) :
    described? name (rows ++ [r]) =
      some (((described? name rows).getD (opened name r)).absorb r) := by
  cases rows with
  | nil =>
    have hfirst : [r.columnName].eraseDups = [r.columnName] := rfl
    cases hf : r.isFulltext <;> simp [described?, absorb, type_opened, hf, hfirst]
  | cons first rest =>
    have hmore := eraseDups_concat ((first :: rest).map IndexRow.columnName) r.columnName
    rw [List.map_cons, List.cons_append] at hmore
    cases hf : r.isFulltext <;> simp [described?, absorb, hf, hmore]

theorem find?_addRow (name : String) (r : IndexRow) (found : List Index) (n : String) :
    (addRow name r found).find? (·.name == n) =
      if name = n then some (((found.find? (·.name == n)).getD (opened name r)).absorb r)
      else found.find? (·.name == n) := by
  induction found with
  | nil => simp [addRow, opened]
  | cons i rest ih =>
    rw [addRow]
    by_cases hi : i.name = name
    · by_cases hn : name = n <;> simp [hi, hn]
    · rw [if_neg hi]
      by_cases hn : i.name = n
      · have hother : name ≠ n := fun h => hi (hn.trans h.symm)
        simp [hn, hother]
      · simp [hn, ih]

/-- By its name an index is found as its rows describe it. -/
theorem find?_group (rows : List IndexRow) (n : String) :
    (group rows).find? (·.name == n) = described? n (rowsOf n rows) := by
  induction rows using List.reverseRecOn with
  | nil => rfl
  | append_singleton rows r ih =>
    rw [group_concat, rowsOf, List.filter_append, ← rowsOf]
    cases hr : r.indexName? with
    | none => simp [hr, ih]
    | some name =>
      dsimp only
      rw [find?_addRow, ih]
      by_cases hn : name = n
      · subst hn
        simp [hr, described?_concat]
      · simp [hr, hn]

theorem nodup_names_group (rows : List IndexRow) : ((group rows).map Index.name).Nodup := by
  rw [names_group]
  exact nodup_eraseDups _

theorem described?_of_mem_group {rows : List IndexRow} {i : Index} (hi : i ∈ group rows) :
    described? i.name (rowsOf i.name rows) = some i := by
  rw [← find?_group]
  refine find?_of_unique hi (beq_self_eq_true i.name) fun j hj hname => ?_
  exact List.inj_on_of_nodup_map (nodup_names_group rows) hj hi (eq_of_beq hname)

/-- Grouping makes one index for each name, in the order in which the names are first seen, and each
as its rows describe it. -/
theorem map_some_group (rows : List IndexRow) : (group rows).map some =
    (rows.filterMap IndexRow.indexName?).eraseDups.map fun name =>
      described? name (rowsOf name rows) := by
  rw [← names_group, List.map_map]
  exact List.map_congr_left fun i hi => (described?_of_mem_group hi).symm

/-- What is left of the lists is taken from their heads, one by one. -/
inductive Interleaves {α : Type} : List (List α) → List α → Prop
  | done {ls : List (List α)} (h : ∀ l ∈ ls, l = []) : Interleaves ls []
  | next {before after : List (List α)} {a : α} {l r : List α}
    (h : Interleaves (before ++ l :: after) r) : Interleaves (before ++ (a :: l) :: after) (a :: r)

theorem Interleaves.perm {α : Type} {ls : List (List α)} {r : List α} (h : Interleaves ls r) :
    r.Perm ls.flatten := by
  induction h with
  | done h => rw [List.flatten_eq_nil_iff.2 h]
  | @next before after a l r _ ih =>
    rw [List.flatten_append, List.flatten_cons] at *
    exact (ih.cons a).trans List.perm_middle.symm

theorem Interleaves.sublist {α : Type} {ls : List (List α)} {r : List α} (h : Interleaves ls r) :
    ∀ l ∈ ls, l.Sublist r := by
  induction h with
  | done h =>
    intro l hl
    rw [h l hl]
  | @next before after a l r _ ih =>
    simp only [List.forall_mem_append, List.forall_mem_cons] at ih ⊢
    obtain ⟨hbefore, hl, hafter⟩ := ih
    exact ⟨fun k hk => (hbefore k hk).cons a, hl.cons_cons a, fun k hk => (hafter k hk).cons a⟩

/-- What an index is built from. -/
structure Request where
  name : String
  columns : List String
  type : String
  name_ne_empty : name ≠ ""
  columns_ne_nil : columns ≠ []

namespace Request

def rows (q : Request) : List IndexRow :=
  Index.rows (some q.name) q.columns q.type

def build? (q : Request) : Option Index :=
  Index.build? (some q.name) q.columns q.type

theorem indexName?_of_mem_rows {q : Request} {r : IndexRow} (h : r ∈ q.rows) :
    r.indexName? = some q.name := by
  obtain ⟨c, -, rfl⟩ := List.mem_map.1 h
  simp [IndexRow.indexName?, q.name_ne_empty]

theorem rows_ne_nil (q : Request) : q.rows ≠ [] := by
  simp [rows, Index.rows, q.columns_ne_nil]

theorem rowsOf_rows (q : Request) : rowsOf q.name q.rows = q.rows :=
  List.filter_eq_self.2 fun r hr => by simp [indexName?_of_mem_rows hr]

theorem rowsOf_rows_of_ne (q : Request) {name : String} (h : q.name ≠ name) :
    rowsOf name q.rows = [] :=
  List.filter_eq_nil_iff.2 fun r hr => by simp [indexName?_of_mem_rows hr, h]

theorem build?_eq (q : Request) : q.build? = described? q.name q.rows := by
  have hfound := find?_group q.rows q.name
  rw [rowsOf_rows] at hfound
  rw [← hfound]
  simp [build?, Index.build?, rows]

end Request

theorem rowsOf_flatten_of_not_mem {qs : List Request} {name : String}
    (h : name ∉ qs.map Request.name) : rowsOf name (qs.map Request.rows).flatten = [] := by
  rw [rowsOf, List.filter_flatten, List.map_map, List.flatten_eq_nil_iff]
  refine List.forall_mem_map.2 fun q hq => ?_
  exact q.rowsOf_rows_of_ne fun e => h (e ▸ List.mem_map_of_mem hq)

theorem rowsOf_flatten {qs : List Request} (hnames : (qs.map Request.name).Nodup) {q : Request}
    (hq : q ∈ qs) : rowsOf q.name (qs.map Request.rows).flatten = q.rows := by
  induction qs with
  | nil => cases hq
  | cons p ps ih =>
    rw [List.map_cons, List.nodup_cons] at hnames
    rw [List.map_cons, List.flatten_cons, rowsOf, List.filter_append, ← rowsOf, ← rowsOf]
    rcases List.mem_cons.1 hq with rfl | hq
    · rw [q.rowsOf_rows, rowsOf_flatten_of_not_mem hnames.1, List.append_nil]
    · have hne : p.name ≠ q.name := fun e => hnames.1 (e ▸ List.mem_map_of_mem hq)
      rw [p.rowsOf_rows_of_ne hne, List.nil_append, ih hnames.2 hq]

section
variable {qs : List Request} {r : List IndexRow} (h : Interleaves (qs.map Request.rows) r)
include h

theorem mem_names_interleaved (name : String) :
    name ∈ (r.filterMap IndexRow.indexName?).eraseDups ↔ name ∈ qs.map Request.name := by
  rw [List.mem_eraseDups, (h.perm.filterMap _).mem_iff]
  simp only [List.mem_filterMap, List.mem_flatten, List.mem_map]
  constructor
  · rintro ⟨row, ⟨-, ⟨q, hq, rfl⟩, hrow⟩, hname⟩
    rw [Request.indexName?_of_mem_rows hrow] at hname
    exact ⟨q, hq, Option.some_inj.1 hname⟩
  · rintro ⟨q, hq, rfl⟩
    obtain ⟨row, hrow⟩ := List.exists_mem_of_ne_nil _ q.rows_ne_nil
    exact ⟨row, ⟨q.rows, ⟨q, hq, rfl⟩, hrow⟩, Request.indexName?_of_mem_rows hrow⟩

/-- Between the rows of other indexes stand those of an index as they were. -/
theorem rowsOf_interleaved (hnames : (qs.map Request.name).Nodup) {q : Request} (hq : q ∈ qs) :
    rowsOf q.name r = q.rows := by
  have hsub : q.rows.Sublist (rowsOf q.name r) := by
    have hown := (h.sublist q.rows (List.mem_map_of_mem hq)).filter fun row =>
      row.indexName? == some q.name
    rwa [← rowsOf, q.rowsOf_rows] at hown
  -- no row of another index has the name, so that there are no more than these
  have hlength : (rowsOf q.name r).length = q.rows.length := by
    rw [← rowsOf_flatten hnames hq]
    exact (h.perm.filter _).length_eq
  exact (hsub.eq_of_length hlength.symm).symm

end

/-- Grouping makes one index for each name, as its rows describe it, in the order in which the names
are first seen. So what rows of several indexes are grouped to does not depend on how they are
interleaved: to the indexes that are built from the same columns. -/
theorem group_described (r : List IndexRow) :
    ((group r).map some = (r.filterMap IndexRow.indexName?).eraseDups.map fun name =>
      described? name (rowsOf name r)) ∧
    ∀ qs : List Request, (qs.map Request.name).Nodup → Interleaves (qs.map Request.rows) r →
      ((group r).map some).Perm (qs.map Request.build?) := by
  refine ⟨map_some_group r, fun qs hnames h => ?_⟩
  have hbuilt : ∀ q ∈ qs, q.build? = described? q.name (rowsOf q.name r) := by
    intro q hq
    rw [q.build?_eq, rowsOf_interleaved h hnames hq]
  have hperm : (r.filterMap IndexRow.indexName?).eraseDups.Perm (qs.map Request.name) :=
    (List.perm_ext_iff_of_nodup (nodup_eraseDups _) hnames).2 (mem_names_interleaved h)
  rw [map_some_group, List.map_congr_left hbuilt]
  exact (hperm.map _).trans (by rw [List.map_map]; rfl)

/-- A unique index and a full-text index, a row of the second between the rows of the first. -/
theorem group_described_interleaved :
    let a : Request := ⟨"a", ["x", "y"], "unique", by decide, by decide⟩
    let b : Request := ⟨"b", ["y"], "fulltext", by decide, by decide⟩
    let r : List IndexRow := [⟨some "a", "x", false, some "BTREE"⟩,
      ⟨some "b", "y", true, some "FULLTEXT"⟩, ⟨some "a", "y", false, some "BTREE"⟩]
    Interleaves [a.rows, b.rows] r ∧ ((group r).map some).Perm [a.build?, b.build?] ∧
      a.build? = some ⟨"a", "UNIQUE", true, ["x", "y"]⟩ ∧
      b.build? = some ⟨"b", "FULLTEXT", false, ["y"]⟩ := by
  intro a b r
  have hrows : [a.rows, b.rows] = [[⟨some "a", "x", false, some "BTREE"⟩,
      ⟨some "a", "y", false, some "BTREE"⟩], [⟨some "b", "y", true, some "FULLTEXT"⟩]] := by
    decide +kernel
  have h : Interleaves [a.rows, b.rows] r := by
    rw [hrows]
    exact @Interleaves.next _ [] [_] _ _ _ <| @Interleaves.next _ [_] [] _ _ _ <|
      @Interleaves.next _ [] [_] _ _ _ <| .done (by decide)
  exact ⟨h, (group_described r).2 [a, b] (by decide) h, by decide +kernel, by decide +kernel⟩

end TableDraft.Index
