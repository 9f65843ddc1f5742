import TableDraft.Index
import TableDraft.Proofs.Definition.Keys

namespace TableDraft

/-- The name of the index that a row belongs to. -/
def IndexRow.indexName? (r : IndexRow) : Option String :=
  r.name.filter (· ≠ "")

namespace Index

/-- The index has columns, and none of them twice. -/
def IsFormed (i : Index) : Prop :=
  i.columns ≠ [] ∧ i.columns.Nodup

theorem isFormed_absorb {i : Index} (r : IndexRow) (h : i.columns.Nodup) :
    (i.absorb r).IsFormed := by
  refine ⟨?_, nodup_columns_absorb r h⟩
  unfold absorb
  dsimp only
  split
  next hc =>
    rw [List.contains_iff_mem] at hc
    exact List.ne_nil_of_mem hc
  next => simp

theorem isFormed_addRow (name : String) (r : IndexRow) {found : List Index}
    (h : ∀ i ∈ found, i.IsFormed) : ∀ i ∈ addRow name r found, i.IsFormed := by
  induction found with
  | nil =>
    intro i hi
    rw [addRow, List.mem_singleton] at hi
    rw [hi]
    exact isFormed_absorb r List.nodup_nil
  | cons j rest ih =>
    have hj := h j List.mem_cons_self
    have hrest : ∀ i ∈ rest, i.IsFormed := fun i hi => h i (List.mem_cons_of_mem j hi)
    intro i hi
    rw [addRow] at hi
    split at hi
    · rcases List.mem_cons.1 hi with rfl | hi
      · exact isFormed_absorb r hj.2
      · exact hrest i hi
    · rcases List.mem_cons.1 hi with rfl | hi
      · exact hj
      · exact ih hrest i hi

theorem isFormed_group (rows : List IndexRow) : ∀ i ∈ group rows, i.IsFormed := by
  have hstart : ∀ i ∈ ([] : List Index), i.IsFormed := by
    simp
  refine List.foldlRecOn (motive := fun found : List Index => ∀ i ∈ found, i.IsFormed) rows _
    hstart fun found h r _ => ?_
  split
  · split
    · exact h
    · exact isFormed_addRow _ r h
  · exact h

theorem names_addRow (name : String) (r : IndexRow) (found : List Index) :
    (addRow name r found).map Index.name =
      if name ∈ found.map Index.name then found.map Index.name else found.map Index.name ++ [name] := by
  induction found with
  | nil => rfl
  | cons i rest ih =>
    rw [addRow, List.map_cons]
    by_cases hi : i.name = name
    · rw [if_pos hi, if_pos (hi ▸ List.mem_cons_self)]
      rfl
    · simp only [if_neg hi, List.map_cons, ih, List.mem_cons, Ne.symm hi, false_or]
      split <;> rfl

theorem group_concat (rows : List IndexRow) (r : IndexRow) : group (rows ++ [r]) =
    match r.indexName? with
    | some name => addRow name r (group rows)
    | none => group rows := by
  rw [group, List.foldl_append, List.foldl_cons, List.foldl_nil, ← group, IndexRow.indexName?]
  cases r.name with
  | none => rfl
  | some name =>
    by_cases hname : name = ""
    · simp [hname, Option.filter_some]
    · simp [hname, Option.filter_some]

/-- The names of the indexes are those of the rows, in the order in which they are first seen. -/
theorem names_group (rows : List IndexRow) :
    (group rows).map Index.name = (rows.filterMap IndexRow.indexName?).eraseDups := by
  induction rows using List.reverseRecOn with
  | nil => rfl
  | append_singleton rows r ih =>
    rw [group_concat, List.filterMap_append, List.filterMap_cons, List.filterMap_nil]
    cases r.indexName? with
    | none => rw [List.append_nil, ih]
    | some name =>
      simp only [names_addRow, eraseDups_concat, ih, List.mem_eraseDups]

theorem build?_eq_some {name : String} {columns : List String} {type : String} {i : Index}
    (h : build? (some name) columns type = some i) : i.name = name ∧ i.IsFormed := by
  have hname := List.find?_some h
  refine ⟨by simpa using hname, isFormed_group _ i (List.mem_of_find?_eq_some h)⟩

end Index

end TableDraft
