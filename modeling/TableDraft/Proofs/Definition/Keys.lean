import Mathlib.Data.List.Induction
import Mathlib.Data.List.Nodup
import TableDraft.Definition

namespace TableDraft

namespace Definition

def columnIds (d : Definition) : List ColumnId :=
  d.columns.map Column.id

def columnNames (d : Definition) : List String :=
  d.columns.map Column.name

def indexNames (d : Definition) : List String :=
  d.indexes.map Index.name

def constraintNames (d : Definition) : List String :=
  d.foreignKeys.map ForeignKey.constraintName

def triggerNames (d : Definition) : List String :=
  d.triggers.map Trigger.name

theorem not_mem_columnIds {d : Definition} {i : ColumnId} :
    i ∉ d.columnIds ↔ ∀ c ∈ d.columns, c.id ≠ i := by
  simp [columnIds]

/-- Where the ids are the same, no column is new. -/
theorem filter_new_eq_nil {d e : Definition} (h : d.columnIds = e.columnIds) :
    d.columns.filter (·.id ∉ e.columnIds) = [] := by
  rw [← h, List.filter_eq_nil_iff]
  intro c hc
  rw [decide_eq_true_iff, not_not]
  exact List.mem_map_of_mem hc

/-- No two columns share an id or a name, and no two indexes, foreign keys or triggers a name. -/
structure KeysDistinct (d : Definition) : Prop where
  columnIds : d.columnIds.Nodup
  columnNames : d.columnNames.Nodup
  indexNames : d.indexNames.Nodup
  constraintNames : d.constraintNames.Nodup
  triggerNames : d.triggerNames.Nodup

end Definition

theorem nodup_map_concat {key : α → β} {items : List α} {x : α} (h : (items.map key).Nodup)
    (hx : ∀ y ∈ items, key y ≠ key x) : ((items ++ [x]).map key).Nodup := by
  rw [List.map_append, List.nodup_append]
  refine ⟨h, List.nodup_singleton _, ?_⟩
  intro a ha b hb
  obtain ⟨y, hy, rfl⟩ := List.mem_map.1 ha
  rw [List.map_singleton, List.mem_singleton] at hb
  rw [hb]
  exact hx y hy

theorem nodup_map_filter {key : α → β} {items : List α} (h : (items.map key).Nodup)
    (kept : α → Bool) : ((items.filter kept).map key).Nodup :=
  h.sublist (List.filter_sublist.map key)

/-- An item at the end comes first of its kind only if it is not there yet. -/
theorem eraseDups_concat [DecidableEq α] (items : List α) (x : α) :
    (items ++ [x]).eraseDups = if x ∈ items then items.eraseDups else items.eraseDups ++ [x] := by
  rw [List.eraseDups_append]
  by_cases hx : x ∈ items
  · simp [List.removeAll, hx]
  · simp [List.removeAll, hx, List.eraseDups_cons]

theorem nodup_eraseDups [DecidableEq α] (items : List α) : items.eraseDups.Nodup := by
  induction items using List.reverseRecOn with
  | nil => exact List.nodup_nil
  | append_singleton items x ih =>
    rw [eraseDups_concat]
    split
    · exact ih
    next hx =>
      rw [← List.mem_eraseDups] at hx
      exact List.nodup_append.2 ⟨ih, List.nodup_singleton x, fun a ha b hb e =>
        hx (List.mem_singleton.1 hb ▸ e ▸ ha)⟩

theorem find?_of_unique {items : List α} {p : α → Bool} {x : α} (hx : x ∈ items) (hp : p x = true)
    (h : ∀ y ∈ items, p y = true → y = x) : items.find? p = some x := by
  obtain ⟨y, hy⟩ := Option.isSome_iff_exists.1 (List.find?_isSome.2 ⟨x, hx, hp⟩)
  rw [hy, h y (List.mem_of_find?_eq_some hy) (List.find?_some hy)]

theorem Column.eq_of_id_eq {columns : List Column} (hn : (columns.map Column.id).Nodup)
    {b c : Column} (hb : b ∈ columns) (hc : c ∈ columns) (h : b.id = c.id) : b = c :=
  List.inj_on_of_nodup_map hn hb hc h

end TableDraft
