import TableDraft.Proofs.Diff.Members

namespace TableDraft

/-- Two columns that no statement needs to tell apart. Defaults and primary keys do not count. -/
structure Column.AgreesWith (a b : Column) : Prop where
  name : a.name = b.name
  dataType : a.dataType = b.dataType
  length : lengthsEqual a.length b.length = true
  nullable : a.nullable = b.nullable
  autoIncrement : a.autoIncrement = b.autoIncrement
  unique : a.unique = b.unique

theorem Column.AgreesWith.refl (c : Column) : c.AgreesWith c :=
  ⟨rfl, rfl, beq_self_eq_true _, rfl, rfl, rfl⟩

theorem ColumnChange.differs_eq_false_iff {c : ColumnChange} :
    c.differs = false ↔ c.before.AgreesWith c.after := by
  rw [differs, Bool.or_eq_false_iff, definitionChanged_eq_false_iff, uniqueChanged,
    bne_eq_false_iff_eq]
  constructor
  · rintro ⟨⟨hname, htype, hlength, hnull, hincrement⟩, hunique⟩
    exact ⟨hname, htype, hlength, hnull, hincrement, hunique⟩
  · rintro ⟨hname, htype, hlength, hnull, hincrement, hunique⟩
    exact ⟨⟨hname, htype, hlength, hnull, hincrement⟩, hunique⟩

/-- The items without the removed ones and with the added ones. -/
def NameMatch.patch [DecidableEq α] (m : NameMatch α) (items : List α) : List α :=
  items.filter (· ∉ m.removed) ++ m.added

theorem NameMatch.mem_names_patch [DecidableEq α] (name : α → String) (snapshot working : List α)
    (n : String) : n ∈ ((of name snapshot working).patch snapshot).map name ↔
      n ∈ working.map name := by
  simp only [patch, List.map_append, List.mem_append, List.mem_map, List.mem_filter,
    decide_eq_true_eq, mem_added]
  constructor
  · rintro (⟨s, ⟨hs, hkept⟩, rfl⟩ | ⟨w, ⟨hw, -⟩, rfl⟩)
    · rw [mem_removed, not_and] at hkept
      by_contra hnone
      exact hkept hs fun w hw e => hnone ⟨w, hw, e⟩
    · exact ⟨w, hw, rfl⟩
  · rintro ⟨w, hw, rfl⟩
    by_cases hold : ∃ s ∈ snapshot, name s = name w
    · obtain ⟨s, hs, hname⟩ := hold
      refine .inl ⟨s, ⟨hs, fun hgone => ?_⟩, hname⟩
      exact (mem_removed.1 hgone).2 w hw hname.symm
    · exact .inr ⟨w, ⟨hw, fun s hs e => hold ⟨s, hs, e⟩⟩, rfl⟩

namespace Diff
open ColumnMatch

/-- What a column of the snapshot is changed to. -/
def replacement (d : Diff) (b : Column) : Column :=
  ((d.changedColumns.find? (·.before = b)).map ColumnChange.after).getD b

/-- The columns without the removed ones, the changed ones replaced, and with the added ones. -/
def patchColumns (d : Diff) (columns : List Column) : List Column :=
  (columns.filter (· ∉ d.removedColumns)).map d.replacement ++ d.addedColumns

variable {snapshot working : Definition}

theorem id_replacement (b : Column) : ((of snapshot working).replacement b).id = b.id := by
  unfold replacement
  cases h : (of snapshot working).changedColumns.find? (·.before = b) with
  | none => rfl
  | some c =>
    have hbefore : c.before = b := by simpa using List.find?_some h
    have hid := (sides_of_changed (List.mem_of_find?_eq_some h)).2.2
    exact hid.symm.trans (congrArg Column.id hbefore)

theorem replacement_agrees (hs : snapshot.columnIds.Nodup) (hw : working.columnIds.Nodup)
    {b w : Column} (hb : b ∈ snapshot.columns) (hmem : w ∈ working.columns) (hid : b.id = w.id) :
    ((of snapshot working).replacement b).AgreesWith w := by
  unfold replacement
  cases h : (of snapshot working).changedColumns.find? (·.before = b) with
  | none =>
    -- the pair is not listed as changed, so it does not differ
    have hpair : counterpart? snapshot.columns w = some b :=
      (counterpart?_eq_some_iff hs).2 ⟨hb, hid⟩
    have hunlisted : ColumnChange.mk b w ∉ (of snapshot working).changedColumns := by
      intro hc
      simpa using List.find?_eq_none.1 h _ hc
    have hsame : (ColumnChange.mk b w).differs = false := by
      by_contra hd
      rw [Bool.not_eq_false] at hd
      exact hunlisted (mem_changedColumns.2 ⟨hmem, hpair, hd⟩)
    exact ColumnChange.differs_eq_false_iff.1 hsame
  | some c =>
    have hbefore : c.before = b := by simpa using List.find?_some h
    obtain ⟨-, hafter, hsides⟩ := sides_of_changed (List.mem_of_find?_eq_some h)
    have hc : c.after = w := by
      apply Column.eq_of_id_eq hw hafter hmem
      rw [← hsides, hbefore, hid]
    simp only [Option.map_some, Option.getD_some, hc]
    exact Column.AgreesWith.refl w

theorem ids_patchColumns (columns : List Column) :
    ((of snapshot working).patchColumns columns).map Column.id =
      (columns.filter (· ∉ (of snapshot working).removedColumns)).map Column.id ++
        (of snapshot working).addedColumns.map Column.id := by
  rw [patchColumns, List.map_append, List.map_map]
  congr 1
  exact List.map_congr_left fun b _ => id_replacement b

theorem nodup_addedIds (hw : working.columnIds.Nodup) :
    ((of snapshot working).addedColumns.map Column.id).Nodup :=
  nodup_map_filter hw _

theorem nodup_ids_patchColumns (hs : snapshot.columnIds.Nodup) (hw : working.columnIds.Nodup) :
    (((of snapshot working).patchColumns snapshot.columns).map Column.id).Nodup := by
  rw [ids_patchColumns, List.nodup_append]
  refine ⟨nodup_map_filter hs _, nodup_addedIds hw, ?_⟩
  -- an added column has an id that no column of the snapshot has
  intro i hi j hj hij
  obtain ⟨b, hb, rfl⟩ := List.mem_map.1 hi
  obtain ⟨c, hc, rfl⟩ := List.mem_map.1 hj
  exact (mem_addedColumns.1 hc).2 b (List.mem_filter.1 hb).1 hij

theorem mem_ids_patchColumns (i : ColumnId) :
    i ∈ ((of snapshot working).patchColumns snapshot.columns).map Column.id ↔
      i ∈ working.columnIds := by
  simp only [ids_patchColumns, Definition.columnIds, List.mem_append, List.mem_map,
    List.mem_filter, decide_eq_true_eq]
  constructor
  · rintro (⟨b, ⟨hb, hkept⟩, rfl⟩ | ⟨c, hc, rfl⟩)
    · rw [mem_removedColumns, not_and] at hkept
      by_contra hnone
      exact hkept hb fun w hw e => hnone ⟨w, hw, e⟩
    · exact ⟨c, (mem_addedColumns.1 hc).1, rfl⟩
  · rintro ⟨w, hw, rfl⟩
    by_cases hold : ∃ b ∈ snapshot.columns, b.id = w.id
    · obtain ⟨b, hb, hid⟩ := hold
      refine .inl ⟨b, ⟨hb, fun hgone => ?_⟩, hid⟩
      exact (mem_removedColumns.1 hgone).2 w hw hid.symm
    · exact .inr ⟨w, mem_addedColumns.2 ⟨hw, fun b hb e => hold ⟨b, hb, e⟩⟩, rfl⟩

theorem patchColumns_agrees (hs : snapshot.columnIds.Nodup) (hw : working.columnIds.Nodup)
    {c w : Column} (hc : c ∈ (of snapshot working).patchColumns snapshot.columns)
    (hmem : w ∈ working.columns) (hid : c.id = w.id) : c.AgreesWith w := by
  rcases List.mem_append.1 hc with hc | hc
  · obtain ⟨b, hb, rfl⟩ := List.mem_map.1 hc
    rw [id_replacement] at hid
    exact replacement_agrees hs hw (List.mem_filter.1 hb).1 hmem hid
  · rw [Column.eq_of_id_eq hw (mem_addedColumns.1 hc).1 hmem hid]
    exact Column.AgreesWith.refl w

/-- No column is added, changed and removed at once, or two of the three. -/
theorem nodup_ids (hs : snapshot.columnIds.Nodup) (hw : working.columnIds.Nodup) :
    ((of snapshot working).addedColumns.map Column.id ++
      (of snapshot working).changedColumns.map (·.after.id) ++
      (of snapshot working).removedColumns.map Column.id).Nodup := by
  have hchanged : ((of snapshot working).changedColumns.map (·.after.id)).Nodup := by
    have h := hw.sublist ((afters_sublist snapshot working).map Column.id)
    rwa [List.map_map] at h
  have hremoved : ((of snapshot working).removedColumns.map Column.id).Nodup :=
    nodup_map_filter hs _
  rw [List.nodup_append, List.nodup_append]
  refine ⟨⟨nodup_addedIds hw, hchanged, ?_⟩, hremoved, ?_⟩
  · intro i hi j hj hij
    obtain ⟨a, ha, rfl⟩ := List.mem_map.1 hi
    obtain ⟨c, hc, rfl⟩ := List.mem_map.1 hj
    obtain ⟨hbefore, -, hid⟩ := sides_of_changed hc
    exact (mem_addedColumns.1 ha).2 c.before hbefore (hid.trans hij.symm)
  · intro i hi j hj hij
    obtain ⟨b, hb, rfl⟩ := List.mem_map.1 hj
    have habsent := (mem_removedColumns.1 hb).2
    rcases List.mem_append.1 hi with hi | hi
    · obtain ⟨a, ha, rfl⟩ := List.mem_map.1 hi
      exact habsent a (mem_addedColumns.1 ha).1 hij
    · obtain ⟨c, hc, rfl⟩ := List.mem_map.1 hi
      exact habsent c.after (sides_of_changed hc).2.1 hij

/-- Carried out on the snapshot, the diff gives one column for each column of the working set, which
agrees with it, and items of exactly the names of the working set; and it lists no column twice. -/
structure Completes (d : Diff) (snapshot working : Definition) : Prop where
  ids : ((d.patchColumns snapshot.columns).map Column.id).Perm working.columnIds
  agree : ∀ c ∈ d.patchColumns snapshot.columns, ∀ w ∈ working.columns, c.id = w.id →
    c.AgreesWith w
  indexes : ∀ n, n ∈ (d.indexes.patch snapshot.indexes).map Index.name ↔
    n ∈ working.indexes.map Index.name
  foreignKeys : ∀ n, n ∈ (d.foreignKeys.patch snapshot.foreignKeys).map ForeignKey.constraintName ↔
    n ∈ working.foreignKeys.map ForeignKey.constraintName
  triggers : ∀ n, n ∈ (d.triggers.patch snapshot.triggers).map Trigger.name ↔
    n ∈ working.triggers.map Trigger.name
  paired : ∀ c ∈ d.changedColumns, c.before.id = c.after.id
  listedOnce : (d.addedColumns.map Column.id ++ d.changedColumns.map (·.after.id) ++
    d.removedColumns.map Column.id).Nodup

theorem of_completes (snapshot working : Definition) (hs : snapshot.columnIds.Nodup)
    (hw : working.columnIds.Nodup) : (of snapshot working).Completes snapshot working where
  ids := by
    rw [List.perm_ext_iff_of_nodup (nodup_ids_patchColumns hs hw) hw]
    exact mem_ids_patchColumns
  agree _ hc _ hmem hid := patchColumns_agrees hs hw hc hmem hid
  indexes := NameMatch.mem_names_patch _ _ _
  foreignKeys := NameMatch.mem_names_patch _ _ _
  triggers := NameMatch.mem_names_patch _ _ _
  paired _ hc := (sides_of_changed hc).2.2
  listedOnce := nodup_ids hs hw

/-- One column is dropped, one kept with its length now a text, one renamed and one added. -/
theorem of_completes_mixed :
    let a : Column :=
      ⟨.number 1, "a", none, "int", some (.number 5), none, true, true, false, false⟩
    let snapshot : Definition := ⟨[{ a with id := .word "x" }, a, { a with id := .number 2 }],
      [⟨"i", "INDEX", false, ["a"]⟩, ⟨"j", "INDEX", false, ["a"]⟩], [⟨"f", "a", "t", "b"⟩], []⟩
    let working : Definition := ⟨[{ a with id := .number 2, name := "b" },
      { a with length := some (.word " 5 ") }, { a with id := .number 3 }],
      [⟨"j", "UNIQUE", true, ["b"]⟩], [⟨"g", "a", "t", "b"⟩], [⟨"h", "after", "delete", ""⟩]⟩
    (of snapshot working).Completes snapshot working :=
  of_completes _ _ (by decide) (by decide)

end Diff

end TableDraft
