import TableDraft.Proofs.Diff.Members

namespace TableDraft

theorem lengthsEqual_comm (a b : Option Mark) : lengthsEqual a b = lengthsEqual b a :=
  BEq.comm

namespace ColumnChange

/-- The change back. -/
def mirrored (c : ColumnChange) : ColumnChange :=
  ⟨c.after, c.before⟩

theorem mirrored_injective : Function.Injective mirrored := by
  intro c d h
  exact congrArg mirrored h

theorem definitionChanged_mirrored (c : ColumnChange) :
    c.mirrored.definitionChanged = c.definitionChanged := by
  unfold definitionChanged
  rw [bne_comm, bne_comm (a := c.mirrored.before.dataType), lengthsEqual_comm,
    bne_comm (a := c.mirrored.before.nullable), bne_comm (a := c.mirrored.before.autoIncrement)]
  rfl

theorem uniqueChanged_mirrored (c : ColumnChange) : c.mirrored.uniqueChanged = c.uniqueChanged :=
  bne_comm

theorem differs_mirrored (c : ColumnChange) : c.mirrored.differs = c.differs := by
  rw [differs, definitionChanged_mirrored, uniqueChanged_mirrored, differs]

end ColumnChange

namespace NameMatch

def mirrored (m : NameMatch α) : NameMatch α :=
  ⟨m.removed, m.added⟩

/-- Names may repeat here. -/
theorem of_mirrored (name : α → String) (snapshot working : List α) :
    of name working snapshot = (of name snapshot working).mirrored := rfl

end NameMatch

namespace Diff
open ColumnMatch

variable {snapshot working : Definition}

theorem addedColumns_mirrored (snapshot working : Definition) :
    (of working snapshot).addedColumns = (of snapshot working).removedColumns := by
  rw [addedColumns_eq, removedColumns_eq]

/-- Where the ids of the snapshot are distinct, neither side of a change is the leading one. -/
theorem mem_changedColumns_iff_sides (hs : snapshot.columnIds.Nodup) {c : ColumnChange} :
    c ∈ (of snapshot working).changedColumns ↔
      (c.before ∈ snapshot.columns ∧ c.after ∈ working.columns) ∧ c.before.id = c.after.id ∧
        c.differs = true := by
  rw [mem_changedColumns, counterpart?_eq_some_iff hs]
  constructor
  · rintro ⟨hafter, ⟨hbefore, hid⟩, hd⟩
    exact ⟨⟨hbefore, hafter⟩, hid, hd⟩
  · rintro ⟨⟨hbefore, hafter⟩, hid, hd⟩
    exact ⟨hafter, ⟨hbefore, hid⟩, hd⟩

theorem mem_changedColumns_mirrored (hs : snapshot.columnIds.Nodup)
    (hw : working.columnIds.Nodup) {c : ColumnChange} :
    c ∈ (of working snapshot).changedColumns ↔
      c.mirrored ∈ (of snapshot working).changedColumns := by
  rw [mem_changedColumns_iff_sides hw, mem_changedColumns_iff_sides hs,
    ColumnChange.differs_mirrored, and_comm (a := c.before ∈ working.columns),
    eq_comm (a := c.before.id)]
  rfl

theorem nodup_changedColumns (snapshot : Definition) (hw : working.columnIds.Nodup) :
    (of snapshot working).changedColumns.Nodup := by
  have hafters : ((of snapshot working).changedColumns.map ColumnChange.after).Nodup :=
    (List.Nodup.of_map _ hw).sublist (afters_sublist snapshot working)
  exact List.Nodup.of_map _ hafters

theorem changedColumns_mirrored (hs : snapshot.columnIds.Nodup) (hw : working.columnIds.Nodup) :
    (of working snapshot).changedColumns.Perm
      ((of snapshot working).changedColumns.map ColumnChange.mirrored) := by
  have hback := (nodup_changedColumns snapshot hw).map ColumnChange.mirrored_injective
  rw [List.perm_ext_iff_of_nodup (nodup_changedColumns working hs) hback]
  intro c
  rw [mem_changedColumns_mirrored hs hw, List.mem_map]
  constructor
  · intro h
    exact ⟨c.mirrored, h, rfl⟩
  · rintro ⟨b, hb, rfl⟩
    exact hb

/-- One diff is the way back of the other. Only changed columns may come in another order, since
they follow the set that they lead to. -/
structure Mirrors (d e : Diff) : Prop where
  addedColumns : d.addedColumns = e.removedColumns
  removedColumns : d.removedColumns = e.addedColumns
  changedColumns : d.changedColumns.Perm (e.changedColumns.map ColumnChange.mirrored)
  flags : ∀ c ∈ e.changedColumns, c.mirrored.definitionChanged = c.definitionChanged ∧
    c.mirrored.uniqueChanged = c.uniqueChanged
  indexes : d.indexes = e.indexes.mirrored
  foreignKeys : d.foreignKeys = e.foreignKeys.mirrored
  triggers : d.triggers = e.triggers.mirrored

theorem of_mirrors (snapshot working : Definition) (hs : snapshot.columnIds.Nodup)
    (hw : working.columnIds.Nodup) :
    (of working snapshot).Mirrors (of snapshot working) where
  addedColumns := addedColumns_mirrored snapshot working
  removedColumns := (addedColumns_mirrored working snapshot).symm
  changedColumns := changedColumns_mirrored hs hw
  flags c _ := ⟨c.definitionChanged_mirrored, c.uniqueChanged_mirrored⟩
  indexes := NameMatch.of_mirrored _ _ _
  foreignKeys := NameMatch.of_mirrored _ _ _
  triggers := NameMatch.of_mirrored _ _ _

/-- Two changed columns that stand in another order on the other side, and names that repeat. -/
theorem of_mirrors_reordered :
    let a : Column :=
      ⟨.number 1, "a", none, "int", some (.number 5), none, true, true, false, false⟩
    let snapshot : Definition := ⟨[a, { a with id := .number 2 }, { a with id := .word "x" }],
      [⟨"i", "INDEX", false, ["a"]⟩, ⟨"i", "UNIQUE", true, ["a"]⟩], [⟨"f", "a", "t", "b"⟩], []⟩
    let working : Definition := ⟨[{ a with id := .number 3 },
      { a with id := .number 2, unique := true }, { a with length := some (.word "6") }],
      [⟨"j", "INDEX", false, ["b"]⟩], [⟨"f", "b", "u", "c"⟩], [⟨"h", "after", "delete", ""⟩]⟩
    (of working snapshot).Mirrors (of snapshot working) :=
  of_mirrors _ _ (by decide) (by decide)

end Diff

end TableDraft
