import Mathlib.Data.Finset.Basic
import TableDraft.Proofs.Plan.Steps
import TableDraft.Text.Blank

namespace TableDraft
open TableDraft.Text

/-- What a statement does to the names of the columns, as it quotes them. -/
inductive ColumnOp where
  | add (name : String)
  | change (old new : String)
  | drop (name : String)
  deriving DecidableEq

namespace ColumnOp

/-- A name that is taken cannot be added or changed to, and one that is missing not changed or
dropped. -/
def run (names : Finset String) : ColumnOp → Option (Finset String)
  | add n => if n ∈ names then none else some (insert n names)
  | change o n =>
    if o ∈ names ∧ (n = o ∨ n ∉ names) then some (insert n (names.erase o)) else none
  | drop n => if n ∈ names then some (names.erase n) else none

def replay (ops : List ColumnOp) (names : Finset String) : Option (Finset String) :=
  ops.foldlM run names

theorem replay_cons (op : ColumnOp) (ops : List ColumnOp) (s : Finset String) :
    replay (op :: ops) s = (op.run s).bind (replay ops) := rfl

theorem replay_append (ops ops' : List ColumnOp) (s : Finset String) :
    replay (ops ++ ops') s = (replay ops s).bind (replay ops') := by
  simp [replay, List.foldlM_append]
  rfl

theorem replay_adds {names : List String} (hn : names.Nodup) {s : Finset String}
    (h : ∀ n ∈ names, n ∉ s) :
    ∃ t, replay (names.map add) s = some t ∧ ∀ x, x ∈ t ↔ x ∈ s ∨ x ∈ names := by
  induction names generalizing s with
  | nil => exact ⟨s, rfl, by simp⟩
  | cons n r ih =>
    obtain ⟨hnr, hr⟩ := List.nodup_cons.1 hn
    have hfree : ∀ m ∈ r, m ∉ insert n s := by
      intro m hm hmem
      obtain rfl | hmem := Finset.mem_insert.1 hmem
      · exact hnr hm
      · exact h m (List.mem_cons_of_mem n hm) hmem
    obtain ⟨t, ht, hmem⟩ := ih hr hfree
    refine ⟨t, ?_, fun x => ?_⟩
    · rw [List.map_cons, replay_cons, run, if_neg (h n List.mem_cons_self)]
      exact ht
    · rw [hmem, Finset.mem_insert, List.mem_cons]
      tauto

/-- Adding takes nothing away, so a name that is taken at first makes the whole fail. -/
theorem replay_adds_eq_none {names : List String} {s : Finset String} (h : ∃ n ∈ names, n ∈ s) :
    replay (names.map add) s = none := by
  induction names generalizing s with
  | nil => simp at h
  | cons m r ih =>
    rw [List.map_cons, replay_cons, run]
    split
    · rfl
    next hm =>
      obtain ⟨n, hn, hs⟩ := h
      obtain rfl | hn := List.mem_cons.1 hn
      · exact absurd hs hm
      · exact ih ⟨n, hn, Finset.mem_insert_of_mem hs⟩

theorem replay_drops {names : List String} (hn : names.Nodup) {s : Finset String}
    (h : ∀ n ∈ names, n ∈ s) :
    ∃ t, replay (names.map drop) s = some t ∧ ∀ x, x ∈ t ↔ x ∈ s ∧ x ∉ names := by
  induction names generalizing s with
  | nil => exact ⟨s, rfl, by simp⟩
  | cons n r ih =>
    obtain ⟨hnr, hr⟩ := List.nodup_cons.1 hn
    have hthere : ∀ m ∈ r, m ∈ s.erase n := by
      intro m hm
      refine Finset.mem_erase.2 ⟨?_, h m (List.mem_cons_of_mem n hm)⟩
      rintro rfl
      exact hnr hm
    obtain ⟨t, ht, hmem⟩ := ih hr hthere
    refine ⟨t, ?_, fun x => ?_⟩
    · rw [List.map_cons, replay_cons, run, if_pos (h n List.mem_cons_self)]
      exact ht
    · rw [hmem, Finset.mem_erase, List.mem_cons]
      tauto

end ColumnOp

def Statement.columnOp? : Statement → Option ColumnOp
  | addColumn _ c => some (.add (trimmed c.name))
  | changeColumn _ b c => some (.change (trimmed b.sourceName) (trimmed c.name))
  | dropColumn _ c => some (.drop (trimmed c.name))
  | _ => none

namespace Diff
open ColumnMatch

/-- The column statements of the plan, in its order. -/
def columnOps (table : String) (d : Diff) : List ColumnOp :=
  (d.steps table).filterMap Statement.columnOp?

/-- What the plan does about a column of the working set that the snapshot has too. -/
def changeOps (snapshot : Definition) (w : Column) : List ColumnOp :=
  match counterpart? snapshot.columns w with
  | some b =>
    if (ColumnChange.mk b w).definitionChanged then
      [.change (trimmed b.sourceName) (trimmed w.name)]
    else []
  | none => []

theorem columnOps_of_change (table : String) (c : ColumnChange) :
    (c.steps table).filterMap Statement.columnOp? = if c.definitionChanged then
      [.change (trimmed c.before.sourceName) (trimmed c.after.name)] else [] := by
  unfold ColumnChange.steps
  cases c.definitionChanged <;> cases c.uniqueChanged <;> cases c.after.unique <;> rfl

theorem columnOps_changed (table : String) (snapshot working : Definition) :
    ((of snapshot working).changedColumns.flatMap (ColumnChange.steps table)).filterMap
      Statement.columnOp? = working.columns.flatMap (changeOps snapshot) := by
  have hsame : ∀ c : ColumnChange, c.differs = false →
      (c.steps table).filterMap Statement.columnOp? = [] := by
    intro c hd
    rw [c.steps_eq_nil hd, List.filterMap_nil]
  rw [List.filterMap_flatMap]
  refine (ColumnChange.flatMap_filter_differs hsame _).trans ?_
  rw [List.flatMap_map, ColumnMatch.of, List.filterMap_eq_flatMap_toList, List.flatMap_assoc]
  refine List.flatMap_congr fun w _ => ?_
  rw [changeOps]
  cases counterpart? snapshot.columns w with
  | none => rfl
  | some b => exact (List.append_nil _).trans (columnOps_of_change table ⟨b, w⟩)

theorem columnOps_eq (table : String) (snapshot working : Definition) :
    (of snapshot working).columnOps table =
      (of snapshot working).addedColumns.map (fun c => ColumnOp.add (trimmed c.name)) ++
        working.columns.flatMap (changeOps snapshot) ++
        (of snapshot working).removedColumns.map (fun c => ColumnOp.drop (trimmed c.name)) := by
  -- of the nine kinds of step only the first three are on columns
  have hothers : ∀ {α : Type} (f : α → Statement) (items : List α),
      (∀ x, (f x).columnOp? = none) → (items.map f).filterMap Statement.columnOp? = [] := by
    intro α f items h
    rw [List.filterMap_map, List.filterMap_eq_nil_iff]
    exact fun x _ => h x
  have hindexes : ((of snapshot working).indexes.added.filterMap
      (Statement.createIndex? table)).filterMap Statement.columnOp? = [] := by
    rw [List.filterMap_eq_nil_iff]
    intro s hs
    obtain ⟨i, -, hi⟩ := List.mem_filterMap.1 hs
    rw [(createIndex?_eq_some.1 hi).2]
    rfl
  have hadds : ((of snapshot working).addedColumns.map (Statement.addColumn table)).filterMap
      Statement.columnOp? =
        (of snapshot working).addedColumns.map fun c => ColumnOp.add (trimmed c.name) := by
    rw [List.filterMap_map]
    exact congrFun List.filterMap_eq_map _
  have hdrops : ((of snapshot working).removedColumns.map (Statement.dropColumn table)).filterMap
      Statement.columnOp? =
        (of snapshot working).removedColumns.map fun c => ColumnOp.drop (trimmed c.name) := by
    rw [List.filterMap_map]
    exact congrFun List.filterMap_eq_map _
  simp only [columnOps, steps, List.filterMap_append, hadds, hdrops, hindexes,
    columnOps_changed table snapshot working]
  rw [hothers (Statement.dropIndex table) _ fun _ => rfl,
    hothers (Statement.addForeignKey table) _ fun _ => rfl,
    hothers (Statement.dropForeignKey table) _ fun _ => rfl,
    hothers (Statement.createTrigger table) _ fun _ => rfl,
    hothers Statement.dropTrigger _ fun _ => rfl]
  simp only [List.append_nil]

end Diff

end TableDraft
