import TableDraft.Diff
import TableDraft.Proofs.Definition.Keys

namespace TableDraft

/-- No later column of the list has the id of `b`. -/
def Column.IsLast (columns : List Column) (b : Column) : Prop :=
  ∃ before after, columns = before ++ b :: after ∧ ∀ c ∈ after, c.id ≠ b.id

namespace ColumnMatch

theorem counterpart?_eq_some_iff_isLast {snapshot : List Column} {b c : Column} :
    counterpart? snapshot c = some b ↔ b.IsLast snapshot ∧ b.id = c.id := by
  rw [counterpart?, List.find?_eq_some_iff_append, and_comm (a := b.IsLast snapshot)]
  simp only [decide_eq_true_eq, Bool.not_eq_true', decide_eq_false_iff_not]
  refine and_congr_right fun hid => ⟨?_, ?_⟩
  · rintro ⟨after, before, hsnapshot, hafter⟩
    refine ⟨before.reverse, after.reverse, ?_, ?_⟩
    · rw [← List.reverse_reverse snapshot, hsnapshot]
      simp
    · intro a ha
      rw [hid]
      exact hafter a (List.mem_reverse.1 ha)
  · rintro ⟨before, after, rfl, hafter⟩
    refine ⟨after.reverse, before.reverse, by simp, ?_⟩
    intro a ha
    rw [← hid]
    exact hafter a (List.mem_reverse.1 ha)

/-- Where ids are distinct, the counterpart is the one column with the id. -/
theorem counterpart?_eq_some_iff {snapshot : List Column}
    (hn : (snapshot.map Column.id).Nodup) {b c : Column} :
    counterpart? snapshot c = some b ↔ b ∈ snapshot ∧ b.id = c.id := by
  refine ⟨counterpart?_eq_some, fun ⟨hb, hid⟩ => ?_⟩
  cases h : counterpart? snapshot c with
  | none => exact absurd hid (counterpart?_eq_none_iff.1 h b hb)
  | some a =>
    obtain ⟨ha, haid⟩ := counterpart?_eq_some h
    rw [Column.eq_of_id_eq hn ha hb (haid.trans hid.symm)]

end ColumnMatch

namespace ColumnChange

theorem definitionChanged_eq_false_iff {c : ColumnChange} : c.definitionChanged = false ↔
    c.before.name = c.after.name ∧ c.before.dataType = c.after.dataType ∧
      lengthsEqual c.before.length c.after.length = true ∧ c.before.nullable = c.after.nullable ∧
      c.before.autoIncrement = c.after.autoIncrement := by
  simp only [definitionChanged, Bool.or_eq_false_iff, bne_eq_false_iff_eq, Bool.not_eq_false',
    and_assoc]

theorem uniqueChanged_iff {c : ColumnChange} :
    c.uniqueChanged = true ↔ c.before.unique = !c.after.unique := by
  rw [uniqueChanged, bne_iff_ne, Bool.eq_not]

/-- Something that a statement can change differs between the two. -/
def differs (c : ColumnChange) : Bool :=
  c.definitionChanged || c.uniqueChanged

/-- Where pairs that do not differ have nothing listed, all pairs can be listed. -/
theorem flatMap_filter_differs {f : ColumnChange → List α} (hf : ∀ c, c.differs = false → f c = [])
    (changes : List ColumnChange) : (changes.filter differs).flatMap f = changes.flatMap f := by
  induction changes with
  | nil => rfl
  | cons c r ih =>
    rw [List.filter_cons, List.flatMap_cons]
    split
    · rw [List.flatMap_cons, ih]
    next hd => rw [hf c (Bool.not_eq_true _ ▸ hd), List.nil_append, ih]

end ColumnChange

/-- Items on both sides are neither added nor removed. -/
theorem NameMatch.of_self (name : α → String) (items : List α) : of name items items = ⟨[], []⟩ := by
  have hnone : items.filter (fun x => !items.any (name · = name x)) = [] := by
    rw [List.filter_eq_nil_iff]
    intro x hx hnew
    rw [Bool.not_eq_true', List.any_eq_false] at hnew
    exact hnew x hx (decide_eq_true rfl)
  rw [of, hnone]

namespace Diff
open ColumnMatch

variable {snapshot working : Definition}

theorem mem_addedColumns {c : Column} : c ∈ (of snapshot working).addedColumns ↔
    c ∈ working.columns ∧ ∀ b ∈ snapshot.columns, b.id ≠ c.id := by
  simp [of, ColumnMatch.of]

theorem mem_removedColumns {b : Column} : b ∈ (of snapshot working).removedColumns ↔
    b ∈ snapshot.columns ∧ ∀ c ∈ working.columns, c.id ≠ b.id := by
  simp [of, ColumnMatch.of]

theorem addedColumns_eq (snapshot working : Definition) : (of snapshot working).addedColumns =
    working.columns.filter (·.id ∉ snapshot.columnIds) := by
  refine List.filter_congr fun c _ => ?_
  rw [Bool.eq_iff_iff, Option.isNone_iff_eq_none, counterpart?_eq_none_iff, decide_eq_true_iff,
    Definition.not_mem_columnIds]

theorem removedColumns_eq (snapshot working : Definition) : (of snapshot working).removedColumns =
    snapshot.columns.filter (·.id ∉ working.columnIds) := by
  refine List.filter_congr fun b _ => ?_
  rw [Bool.eq_iff_iff, Bool.not_eq_true', List.any_eq_false, decide_eq_true_iff,
    Definition.not_mem_columnIds]
  simp only [decide_eq_true_eq]

theorem mem_addedColumns_iff_id {c : Column} : c ∈ (of snapshot working).addedColumns ↔
    c ∈ working.columns ∧ c.id ∉ snapshot.columnIds := by
  rw [addedColumns_eq, List.mem_filter, decide_eq_true_iff]

theorem mem_removedColumns_iff_id {b : Column} : b ∈ (of snapshot working).removedColumns ↔
    b ∈ snapshot.columns ∧ b.id ∉ working.columnIds := by
  rw [removedColumns_eq, List.mem_filter, decide_eq_true_iff]

theorem mem_changedColumns {c : ColumnChange} : c ∈ (of snapshot working).changedColumns ↔
    c.after ∈ working.columns ∧ counterpart? snapshot.columns c.after = some c.before ∧
      c.differs = true := by
  simp only [of, ColumnMatch.of, List.mem_filter, List.mem_map, List.mem_filterMap]
  constructor
  · rintro ⟨⟨p, ⟨w, hw, hp⟩, rfl⟩, hd⟩
    obtain ⟨b, hb, rfl⟩ := Option.map_eq_some_iff.1 hp
    exact ⟨hw, hb, hd⟩
  · rintro ⟨hw, hb, hd⟩
    exact ⟨⟨(c.before, c.after), ⟨c.after, hw, by rw [hb]; rfl⟩, rfl⟩, hd⟩

theorem sides_of_changed {c : ColumnChange} (h : c ∈ (of snapshot working).changedColumns) :
    c.before ∈ snapshot.columns ∧ c.after ∈ working.columns ∧ c.before.id = c.after.id := by
  obtain ⟨hw, hb, -⟩ := mem_changedColumns.1 h
  obtain ⟨hmem, hid⟩ := counterpart?_eq_some hb
  exact ⟨hmem, hw, hid⟩

/-- The changed columns of the working set stand in its order. -/
theorem afters_sublist (snapshot working : Definition) :
    ((of snapshot working).changedColumns.map ColumnChange.after).Sublist working.columns := by
  have hmatched : ∀ columns : List Column,
      ((columns.filterMap fun c => (counterpart? snapshot.columns c).map (·, c)).map
        Prod.snd).Sublist columns := by
    intro columns
    induction columns with
    | nil => exact List.Sublist.slnil
    | cons c r ih =>
      rw [List.filterMap_cons]
      cases counterpart? snapshot.columns c with
      | none => exact ih.cons c
      | some b => exact ih.cons_cons c
  have hfilter := (List.filter_sublist (p := ColumnChange.differs)
    (l := ((ColumnMatch.of snapshot.columns working.columns).matched.map fun p =>
      ColumnChange.mk p.1 p.2))).map ColumnChange.after
  rw [List.map_map] at hfilter
  exact hfilter.trans (hmatched working.columns)

end Diff

end TableDraft
