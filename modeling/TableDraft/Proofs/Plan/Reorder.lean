import Mathlib.Data.List.Perm.Basic
import TableDraft.Proofs.Diff.Members
import TableDraft.Plan

namespace TableDraft

namespace Definition

/-- The same columns, indexes, foreign keys and triggers, each in any order. -/
structure Reorders (d e : Definition) : Prop where
  columns : d.columns.Perm e.columns
  indexes : d.indexes.Perm e.indexes
  foreignKeys : d.foreignKeys.Perm e.foreignKeys
  triggers : d.triggers.Perm e.triggers

theorem Reorders.mem_columnIds {d e : Definition} (h : d.Reorders e) {i : ColumnId} :
    i ∈ d.columnIds ↔ i ∈ e.columnIds :=
  (h.columns.map Column.id).mem_iff

end Definition

namespace ColumnMatch

/-- Where ids are distinct, no column is the last of its id by its place. -/
theorem counterpart?_perm {snapshot snapshot' : List Column}
    (hn : (snapshot.map Column.id).Nodup) (h : snapshot.Perm snapshot') (c : Column) :
    counterpart? snapshot c = counterpart? snapshot' c := by
  have hn' : (snapshot'.map Column.id).Nodup := (h.map Column.id).nodup_iff.1 hn
  ext b
  rw [counterpart?_eq_some_iff hn, counterpart?_eq_some_iff hn', h.mem_iff]

end ColumnMatch

namespace NameMatch

structure Reorders (m n : NameMatch α) : Prop where
  added : m.added.Perm n.added
  removed : m.removed.Perm n.removed

theorem filter_unnamed_perm (name : α → String) {items items' others others' : List α}
    (h : items.Perm items') (h' : others.Perm others') :
    (items.filter fun x => !others.any (name · = name x)).Perm
      (items'.filter fun x => !others'.any (name · = name x)) := by
  have hsame : ∀ x, others.any (name · = name x) = others'.any (name · = name x) := by
    intro x
    rw [Bool.eq_iff_iff, List.any_eq_true, List.any_eq_true]
    simp only [h'.mem_iff]
  simp only [hsame]
  exact h.filter _

/-- Names may repeat here. -/
theorem of_reorders (name : α → String) {snapshot snapshot' working working' : List α}
    (hs : snapshot.Perm snapshot') (hw : working.Perm working') :
    (of name snapshot working).Reorders (of name snapshot' working') where
  added := filter_unnamed_perm name hw hs
  removed := filter_unnamed_perm name hs hw

end NameMatch

namespace Diff
open ColumnMatch

structure Reorders (d e : Diff) : Prop where
  addedColumns : d.addedColumns.Perm e.addedColumns
  removedColumns : d.removedColumns.Perm e.removedColumns
  changedColumns : d.changedColumns.Perm e.changedColumns
  indexes : d.indexes.Reorders e.indexes
  foreignKeys : d.foreignKeys.Reorders e.foreignKeys
  triggers : d.triggers.Reorders e.triggers

section
variable {snapshot snapshot' working working' : Definition}

theorem addedColumns_perm (hs : snapshot.Reorders snapshot') (hw : working.Reorders working') :
    (of snapshot working).addedColumns.Perm (of snapshot' working').addedColumns := by
  simp only [addedColumns_eq, hs.mem_columnIds]
  exact hw.columns.filter _

theorem removedColumns_perm (hs : snapshot.Reorders snapshot') (hw : working.Reorders working') :
    (of snapshot working).removedColumns.Perm (of snapshot' working').removedColumns := by
  simp only [removedColumns_eq, hw.mem_columnIds]
  exact hs.columns.filter _

/-- In the working set ids may repeat. -/
theorem changedColumns_perm (hn : snapshot.columnIds.Nodup) (hs : snapshot.Reorders snapshot')
    (hw : working.Reorders working') :
    (of snapshot working).changedColumns.Perm (of snapshot' working').changedColumns := by
  have hmatched : (ColumnMatch.of snapshot.columns working.columns).matched.Perm
      (ColumnMatch.of snapshot'.columns working'.columns).matched := by
    unfold ColumnMatch.of
    simp only [counterpart?_perm hn hs.columns]
    exact hw.columns.filterMap _
  exact (hmatched.map _).filter _

theorem of_reorders (hn : snapshot.columnIds.Nodup) (hs : snapshot.Reorders snapshot')
    (hw : working.Reorders working') : (of snapshot working).Reorders (of snapshot' working') where
  addedColumns := addedColumns_perm hs hw
  removedColumns := removedColumns_perm hs hw
  changedColumns := changedColumns_perm hn hs hw
  indexes := NameMatch.of_reorders _ hs.indexes hw.indexes
  foreignKeys := NameMatch.of_reorders _ hs.foreignKeys hw.foreignKeys
  triggers := NameMatch.of_reorders _ hs.triggers hw.triggers

end

/-- The steps by what they are for: columns are added, changed and removed, then indexes, foreign keys
and triggers are added and removed. -/
def phases (table : String) (d : Diff) : List (List Statement) :=
  [d.addedColumns.map (.addColumn table), d.changedColumns.flatMap (ColumnChange.steps table),
    d.removedColumns.map (.dropColumn table),
    d.indexes.added.filterMap (Statement.createIndex? table), d.indexes.removed.map (.dropIndex table),
    d.foreignKeys.added.map (.addForeignKey table), d.foreignKeys.removed.map (.dropForeignKey table),
    d.triggers.added.map (.createTrigger table), d.triggers.removed.map .dropTrigger]

theorem steps_eq_flatten_phases (table : String) (d : Diff) :
    d.steps table = (d.phases table).flatten := by
  simp only [steps, phases, List.flatten_cons, List.flatten_nil, List.append_nil, List.append_assoc]

namespace Reorders

variable {d e : Diff}

theorem phases (h : d.Reorders e) (table : String) :
    List.Forall₂ List.Perm (d.phases table) (e.phases table) :=
  .cons (h.addedColumns.map _) <| .cons (h.changedColumns.flatMap_right _) <|
    .cons (h.removedColumns.map _) <| .cons (h.indexes.added.filterMap _) <|
    .cons (h.indexes.removed.map _) <| .cons (h.foreignKeys.added.map _) <|
    .cons (h.foreignKeys.removed.map _) <| .cons (h.triggers.added.map _) <|
    .cons (h.triggers.removed.map _) .nil

theorem steps (h : d.Reorders e) (table : String) : (d.steps table).Perm (e.steps table) := by
  rw [steps_eq_flatten_phases, steps_eq_flatten_phases]
  exact List.Perm.flatten_congr (h.phases table)

theorem notes (h : d.Reorders e) : d.notes.Perm e.notes :=
  h.changedColumns.filterMap _

end Reorders

end Diff

namespace Plan

/-- Reordering both sides reorders statements within their phases, and notes, and changes none. -/
theorem compile_reordered (database table : String)
    {snapshot snapshot' working working' : Definition} (hn : snapshot.columnIds.Nodup)
    (hs : snapshot.Reorders snapshot') (hw : working.Reorders working') :
    let plan := compile database table snapshot working
    let plan' := compile database table snapshot' working'
    plan.statements.Perm plan'.statements ∧ plan.notes.Perm plan'.notes ∧
      List.Forall₂ List.Perm ((Diff.of snapshot working).phases table)
        ((Diff.of snapshot' working').phases table) := by
  intro plan plan'
  have hdiff := Diff.of_reorders hn hs hw
  exact ⟨(hdiff.steps table).map Statement.text, hdiff.notes, hdiff.phases table⟩

/-- Two columns of one id in the working set, and two indexes of one name. -/
theorem compile_reordered_repeated :
    let a : Column := ⟨.number 1, "a", some "a", "int", none, none, true, false, false, true⟩
    let b : Column := { a with id := .number 2 }
    let c : Column := { b with unique := false }
    let i : Index := ⟨"i", "INDEX", false, ["a"]⟩
    let j : Index := ⟨"i", "UNIQUE", true, ["b"]⟩
    let snapshot : Definition := ⟨[a, b], [], [], []⟩
    let working : Definition := ⟨[{ b with name := "x" }, c], [i, j], [], []⟩
    let plan := compile "shop" "t" snapshot working
    let plan' := compile "shop" "t" ⟨[b, a], [], [], []⟩ ⟨[c, { b with name := "x" }], [j, i], [], []⟩
    snapshot.columnIds.Nodup ∧ plan.statements.Perm plan'.statements ∧ plan.notes.Perm plan'.notes := by
  intro a b c i j snapshot working plan plan'
  have hn : snapshot.columnIds.Nodup := by
    decide
  have hs : snapshot.Reorders ⟨[b, a], [], [], []⟩ := ⟨.swap b a [], .nil, .nil, .nil⟩
  have hw : working.Reorders ⟨[c, { b with name := "x" }], [j, i], [], []⟩ :=
    ⟨.swap c { b with name := "x" } [], .swap j i [], .nil, .nil⟩
  obtain ⟨hstatements, hnotes, -⟩ := compile_reordered "shop" "t" hn hs hw
  exact ⟨hn, hstatements, hnotes⟩

end Plan

end TableDraft
