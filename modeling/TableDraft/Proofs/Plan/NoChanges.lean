import TableDraft.Proofs.Diff.Completeness
import TableDraft.Proofs.Plan.Steps

namespace TableDraft

namespace Definition

/-- Two definitions that no statement needs to tell apart. Where ids repeat in the snapshot, the last
column of an id counts. -/
structure AgreesWith (snapshot working : Definition) : Prop where
  ids : ∀ i, i ∈ snapshot.columnIds ↔ i ∈ working.columnIds
  columns : ∀ c ∈ working.columns, ∀ b : Column, b.IsLast snapshot.columns → b.id = c.id →
    b.AgreesWith c
  indexes : ∀ n ∈ snapshot.indexNames, n ∈ working.indexNames
  newIndexes : ∀ i ∈ working.indexes, i.name ∉ snapshot.indexNames → i.columns = []
  foreignKeys : ∀ n, n ∈ snapshot.constraintNames ↔ n ∈ working.constraintNames
  triggers : ∀ n, n ∈ snapshot.triggerNames ↔ n ∈ working.triggerNames

end Definition

namespace Column.AgreesWith

theorem symm {b c : Column} (h : b.AgreesWith c) : c.AgreesWith b :=
  ⟨h.name.symm, h.dataType.symm, beq_iff_eq.2 (beq_iff_eq.1 h.length).symm, h.nullable.symm,
    h.autoIncrement.symm, h.unique.symm⟩

theorem trans {a b c : Column} (h : a.AgreesWith b) (h' : b.AgreesWith c) : a.AgreesWith c :=
  ⟨h.name.trans h'.name, h.dataType.trans h'.dataType,
    beq_iff_eq.2 ((beq_iff_eq.1 h.length).trans (beq_iff_eq.1 h'.length)),
    h.nullable.trans h'.nullable, h.autoIncrement.trans h'.autoIncrement, h.unique.trans h'.unique⟩

end Column.AgreesWith

instance (b c : Column) : Decidable (b.AgreesWith c) :=
  decidable_of_iff _ (ColumnChange.differs_eq_false_iff (c := ⟨b, c⟩))

namespace Definition
open ColumnMatch

/-- Columns that share an id agree. -/
def IdsAgree (d : Definition) : Prop :=
  ∀ b ∈ d.columns, ∀ c ∈ d.columns, b.id = c.id → b.AgreesWith c

instance (d : Definition) : Decidable d.IdsAgree :=
  inferInstanceAs (Decidable (∀ b ∈ d.columns, ∀ c ∈ d.columns, _))

theorem agreesWith_self_iff {d : Definition} : d.AgreesWith d ↔ d.IdsAgree := by
  constructor
  · intro h b hb c hc hid
    -- both agree with the last column of their id
    cases hlast : counterpart? d.columns c with
    | none => exact absurd rfl (counterpart?_eq_none_iff.1 hlast c hc)
    | some l =>
      obtain ⟨hl, hlid⟩ := counterpart?_eq_some_iff_isLast.1 hlast
      have hb' := h.columns b hb l hl (hlid.trans hid.symm)
      exact hb'.symm.trans (h.columns c hc l hl hlid)
  · intro h
    refine ⟨fun _ => Iff.rfl, ?_, fun _ => id, ?_, fun _ => Iff.rfl, fun _ => Iff.rfl⟩
    · rintro c hc b ⟨before, after, hcolumns, -⟩ hid
      refine h b ?_ c hc hid
      rw [hcolumns]
      exact List.mem_append_right before List.mem_cons_self
    · exact fun i hi hnew => absurd (List.mem_map_of_mem hi) hnew

end Definition

namespace NameMatch

theorem not_mem_added_iff {name : α → String} {snapshot working : List α} :
    (∀ x, x ∉ (of name snapshot working).added) ↔
      ∀ n ∈ working.map name, n ∈ snapshot.map name := by
  simp [not_and]

theorem not_mem_removed_iff {name : α → String} {snapshot working : List α} :
    (∀ x, x ∉ (of name snapshot working).removed) ↔
      ∀ n ∈ snapshot.map name, n ∈ working.map name := by
  simp [not_and]

end NameMatch

namespace Diff
open ColumnMatch

variable {table : String} {snapshot working : Definition}

theorem steps_eq_nil_of_agrees (h : snapshot.AgreesWith working) :
    (of snapshot working).steps table = [] := by
  rw [List.eq_nil_iff_forall_not_mem]
  intro s hs
  have hsame : ∀ c ∈ (of snapshot working).changedColumns, False := by
    intro c hc
    obtain ⟨hmem, hbefore, hd⟩ := mem_changedColumns.1 hc
    obtain ⟨hlast, hid⟩ := counterpart?_eq_some_iff_isLast.1 hbefore
    have hagrees := h.columns c.after hmem c.before hlast hid
    rw [ColumnChange.differs_eq_false_iff.2 hagrees] at hd
    cases hd
  cases mem_steps.1 hs with
  | addColumn hc =>
    obtain ⟨hmem, hid⟩ := mem_addedColumns_iff_id.1 hc
    exact hid ((h.ids _).2 (List.mem_map_of_mem hmem))
  | changeColumn hc => exact hsame _ hc
  | addUnique hc => exact hsame _ hc
  | dropUnique hc => exact hsame _ hc
  | dropColumn hc =>
    obtain ⟨hmem, hid⟩ := mem_removedColumns_iff_id.1 hc
    exact hid ((h.ids _).1 (List.mem_map_of_mem hmem))
  | createIndex hi hcolumns =>
    obtain ⟨hmem, hnew⟩ := NameMatch.mem_added.1 hi
    refine hcolumns (h.newIndexes _ hmem fun hold => ?_)
    obtain ⟨j, hj, hname⟩ := List.mem_map.1 hold
    exact hnew j hj hname
  | dropIndex hi => exact NameMatch.not_mem_removed_iff.2 h.indexes _ hi
  | addForeignKey hk => exact NameMatch.not_mem_added_iff.2 (fun n => (h.foreignKeys n).2) _ hk
  | dropForeignKey hk => exact NameMatch.not_mem_removed_iff.2 (fun n => (h.foreignKeys n).1) _ hk
  | createTrigger ht => exact NameMatch.not_mem_added_iff.2 (fun n => (h.triggers n).2) _ ht
  | dropTrigger ht => exact NameMatch.not_mem_removed_iff.2 (fun n => (h.triggers n).1) _ ht

theorem agrees_of_steps_eq_nil (h : (of snapshot working).steps table = []) :
    snapshot.AgreesWith working := by
  have hnone : ∀ s, ¬(of snapshot working).CallsFor table s := by
    intro s hs
    rw [← mem_steps, h] at hs
    cases hs
  have hchanged : ∀ c ∈ (of snapshot working).changedColumns, False := by
    intro c hc
    obtain ⟨-, -, hd⟩ := mem_changedColumns.1 hc
    cases hdefinition : c.definitionChanged with
    | true => exact hnone _ (.changeColumn hc hdefinition)
    | false =>
      have hunique : c.uniqueChanged = true := by
        rwa [ColumnChange.differs, hdefinition, Bool.false_or] at hd
      cases hafter : c.after.unique with
      | true => exact hnone _ (.addUnique hc hunique hafter)
      | false => exact hnone _ (.dropUnique hc hunique hafter)
  refine ⟨fun i => ⟨fun hi => ?_, fun hi => ?_⟩, ?_, ?_, ?_, fun n => ⟨?_, ?_⟩, fun n => ⟨?_, ?_⟩⟩
  · by_contra hgone
    obtain ⟨b, hb, rfl⟩ := List.mem_map.1 hi
    exact hnone _ (.dropColumn (mem_removedColumns_iff_id.2 ⟨hb, hgone⟩))
  · by_contra hnew
    obtain ⟨c, hc, rfl⟩ := List.mem_map.1 hi
    exact hnone _ (.addColumn (mem_addedColumns_iff_id.2 ⟨hc, hnew⟩))
  · intro c hc b hlast hid
    rw [← ColumnChange.differs_eq_false_iff (c := ⟨b, c⟩), Bool.eq_false_iff]
    intro hd
    have hbefore := counterpart?_eq_some_iff_isLast.2 ⟨hlast, hid⟩
    exact hchanged ⟨b, c⟩ (mem_changedColumns.2 ⟨hc, hbefore, hd⟩)
  · exact NameMatch.not_mem_removed_iff.1 fun i hi => hnone _ (.dropIndex hi)
  · intro i hi hnew
    by_contra hcolumns
    refine hnone _ (.createIndex (NameMatch.mem_added.2 ⟨hi, ?_⟩) hcolumns)
    intro j hj hname
    exact hnew (hname ▸ List.mem_map_of_mem hj)
  · exact NameMatch.not_mem_removed_iff.1 (fun k hk => hnone _ (.dropForeignKey hk)) n
  · exact NameMatch.not_mem_added_iff.1 (fun k hk => hnone _ (.addForeignKey hk)) n
  · exact NameMatch.not_mem_removed_iff.1 (fun t ht => hnone _ (.dropTrigger ht)) n
  · exact NameMatch.not_mem_added_iff.1 (fun t ht => hnone _ (.createTrigger ht)) n

end Diff

namespace Plan

theorem statements_eq_nil_iff {database table : String} {snapshot working : Definition} :
    (compile database table snapshot working).statements = [] ↔ snapshot.AgreesWith working := by
  show List.map Statement.text _ = [] ↔ _
  rw [List.map_eq_nil_iff]
  exact ⟨Diff.agrees_of_steps_eq_nil, Diff.steps_eq_nil_of_agrees⟩

/-- A script with statements starts with a title, and not as the script without any does. -/
theorem script_eq_noChanges_iff {p : Plan} : p.script = noChanges ↔ p.statements = [] := by
  constructor
  · intro h
    by_contra hne
    have hchanges : p.hasChanges = true := by
      simpa [hasChanges] using hne
    have htitle : "-- Schema Change Plan for ".toList <+: p.script.toList := by
      rw [script, if_pos hchanges, String.append_assoc, String.append_assoc, List.cons_append,
        String.intercalate_cons_append, String.toList_append]
      exact List.prefix_append _ _
    rw [h] at htitle
    exact absurd htitle (by decide)
  · intro h
    simp [script, hasChanges, h]

/-- A plan has no changes exactly if its two definitions agree, and its script says so. -/
theorem unchanged_iff (database table : String) (snapshot working : Definition) :
    let p := compile database table snapshot working
    (p.hasChanges = false ↔ snapshot.AgreesWith working) ∧
      (p.script = noChanges ↔ snapshot.AgreesWith working) := by
  intro p
  refine ⟨?_, script_eq_noChanges_iff.trans statements_eq_nil_iff⟩
  rw [hasChanges, Bool.not_eq_false', List.isEmpty_iff]
  exact statements_eq_nil_iff

end Plan

end TableDraft
