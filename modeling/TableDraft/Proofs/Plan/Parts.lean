import TableDraft.Proofs.Plan.Steps

namespace TableDraft

inductive Part where
  | columns
  | indexes
  | foreignKeys
  | triggers
  deriving DecidableEq

namespace Definition

/-- The definition without all other parts. -/
def only (d : Definition) : Part → Definition
  | .columns => { empty with columns := d.columns }
  | .indexes => { empty with indexes := d.indexes }
  | .foreignKeys => { empty with foreignKeys := d.foreignKeys }
  | .triggers => { empty with triggers := d.triggers }

variable {v w : Definition}

theorem only_columns_inj : v.only .columns = w.only .columns ↔ v.columns = w.columns := by
  simp [only]

theorem only_indexes_inj : v.only .indexes = w.only .indexes ↔ v.indexes = w.indexes := by
  simp [only]

theorem only_foreignKeys_inj :
    v.only .foreignKeys = w.only .foreignKeys ↔ v.foreignKeys = w.foreignKeys := by
  simp [only]

theorem only_triggers_inj : v.only .triggers = w.only .triggers ↔ v.triggers = w.triggers := by
  simp [only]

end Definition

/-- The part that a statement is about. -/
def Statement.part : Statement → Part
  | addColumn .. | changeColumn .. | dropColumn .. | addUnique .. | dropUnique .. => .columns
  | createIndex .. | dropIndex .. => .indexes
  | addForeignKey .. | dropForeignKey .. => .foreignKeys
  | createTrigger .. | dropTrigger .. => .triggers

namespace Diff

variable {table : String} {d : Diff}

/-- The statements about one part. -/
def stepsOn (table : String) (d : Diff) : Part → List Statement
  | .columns => d.addedColumns.map (.addColumn table) ++
      d.changedColumns.flatMap (ColumnChange.steps table) ++ d.removedColumns.map (.dropColumn table)
  | .indexes => d.indexes.added.filterMap (Statement.createIndex? table) ++
      d.indexes.removed.map (.dropIndex table)
  | .foreignKeys => d.foreignKeys.added.map (.addForeignKey table) ++
      d.foreignKeys.removed.map (.dropForeignKey table)
  | .triggers => d.triggers.added.map (.createTrigger table) ++ d.triggers.removed.map .dropTrigger

/-- No two parts are mixed in a plan. -/
theorem steps_eq_stepsOn : d.steps table = d.stepsOn table .columns ++ d.stepsOn table .indexes ++
    d.stepsOn table .foreignKeys ++ d.stepsOn table .triggers := by
  simp only [steps, stepsOn, List.append_assoc]

theorem part_of_mem_stepsOn {p : Part} {s : Statement} (h : s ∈ d.stepsOn table p) : s.part = p := by
  cases p with
  | columns =>
    simp only [stepsOn, List.mem_append, List.mem_map, List.mem_flatMap, mem_columnSteps] at h
    obtain (⟨_, -, rfl⟩ | ⟨_, -, ⟨-, rfl⟩ | ⟨-, -, rfl⟩ | ⟨-, -, rfl⟩⟩) | ⟨_, -, rfl⟩ := h <;> rfl
  | indexes =>
    simp only [stepsOn, List.mem_append, List.mem_map, List.mem_filterMap,
      createIndex?_eq_some] at h
    obtain ⟨_, -, -, rfl⟩ | ⟨_, -, rfl⟩ := h <;> rfl
  | foreignKeys =>
    simp only [stepsOn, List.mem_append, List.mem_map] at h
    obtain ⟨_, -, rfl⟩ | ⟨_, -, rfl⟩ := h <;> rfl
  | triggers =>
    simp only [stepsOn, List.mem_append, List.mem_map] at h
    obtain ⟨_, -, rfl⟩ | ⟨_, -, rfl⟩ := h <;> rfl

theorem filter_steps (p : Part) : (d.steps table).filter (·.part = p) = d.stepsOn table p := by
  have hsegment : ∀ q, (d.stepsOn table q).filter (·.part = p) =
      if q = p then d.stepsOn table q else [] := by
    intro q
    split
    next hq =>
      rw [List.filter_eq_self]
      exact fun s hs => decide_eq_true ((part_of_mem_stepsOn hs).trans hq)
    next hq =>
      rw [List.filter_eq_nil_iff]
      exact fun s hs h => hq ((part_of_mem_stepsOn hs).symm.trans (of_decide_eq_true h))
  rw [steps_eq_stepsOn, List.filter_append, List.filter_append, List.filter_append, hsegment,
    hsegment, hsegment, hsegment]
  cases p <;> simp

theorem stepsOn_only (snapshot working : Definition) (p : Part) :
    (of (snapshot.only p) (working.only p)).stepsOn table p = (of snapshot working).stepsOn table p := by
  cases p <;> rfl

end Diff

end TableDraft
