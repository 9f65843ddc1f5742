import TableDraft.Plan
import TableDraft.Proofs.Diff.Members

namespace TableDraft

theorem ColumnChange.steps_eq_nil {c : ColumnChange} (h : c.differs = false) (table : String) :
    c.steps table = [] := by
  obtain ⟨hdefinition, hunique⟩ := Bool.or_eq_false_iff.1 h
  rw [steps, hdefinition, hunique]
  rfl

namespace Diff

/-- The statements that a diff of `table` calls for, whatever their order. -/
inductive CallsFor (table : String) (d : Diff) : Statement → Prop where
  | addColumn {c : Column} (h : c ∈ d.addedColumns) : CallsFor table d (.addColumn table c)
  | changeColumn {c : ColumnChange} (h : c ∈ d.changedColumns) (hd : c.definitionChanged = true) :
    CallsFor table d (.changeColumn table c.before c.after)
  | addUnique {c : ColumnChange} (h : c ∈ d.changedColumns) (hu : c.uniqueChanged = true)
    (ha : c.after.unique = true) : CallsFor table d (.addUnique table c.after)
  | dropUnique {c : ColumnChange} (h : c ∈ d.changedColumns) (hu : c.uniqueChanged = true)
    (ha : c.after.unique = false) : CallsFor table d (.dropUnique table c.before)
  | dropColumn {c : Column} (h : c ∈ d.removedColumns) : CallsFor table d (.dropColumn table c)
  | createIndex {i : Index} (h : i ∈ d.indexes.added) (hc : i.columns ≠ []) :
    CallsFor table d (.createIndex table i)
  | dropIndex {i : Index} (h : i ∈ d.indexes.removed) : CallsFor table d (.dropIndex table i)
  | addForeignKey {k : ForeignKey} (h : k ∈ d.foreignKeys.added) :
    CallsFor table d (.addForeignKey table k)
  | dropForeignKey {k : ForeignKey} (h : k ∈ d.foreignKeys.removed) :
    CallsFor table d (.dropForeignKey table k)
  | createTrigger {g : Trigger} (h : g ∈ d.triggers.added) :
    CallsFor table d (.createTrigger table g)
  | dropTrigger {g : Trigger} (h : g ∈ d.triggers.removed) : CallsFor table d (.dropTrigger g)

theorem mem_columnSteps {table : String} {c : ColumnChange} {s : Statement} :
    s ∈ c.steps table ↔
      (c.definitionChanged = true ∧ s = .changeColumn table c.before c.after) ∨
      (c.uniqueChanged = true ∧ c.after.unique = true ∧ s = .addUnique table c.after) ∨
      (c.uniqueChanged = true ∧ c.after.unique = false ∧ s = .dropUnique table c.before) := by
  simp only [ColumnChange.steps, List.mem_append]
  cases c.definitionChanged <;> cases c.uniqueChanged <;> cases c.after.unique <;>
    simp only [if_true, if_false, Bool.false_eq_true, Bool.true_eq_false, List.mem_singleton,
      List.not_mem_nil, true_and, false_and, and_false, or_false, false_or]

theorem createIndex?_eq_some {table : String} {i : Index} {s : Statement} :
    Statement.createIndex? table i = some s ↔ i.columns ≠ [] ∧ s = .createIndex table i := by
  unfold Statement.createIndex?
  rw [← List.isEmpty_eq_false_iff]
  split
  next h => simp only [h, reduceCtorEq, Bool.true_eq_false, false_and]
  next h => simp only [h, Option.some_inj, eq_comm, true_and]

theorem mem_steps {table : String} {d : Diff} {s : Statement} :
    s ∈ d.steps table ↔ d.CallsFor table s := by
  simp only [steps, List.mem_append, List.mem_map, List.mem_flatMap, List.mem_filterMap,
    mem_columnSteps, createIndex?_eq_some, or_assoc]
  constructor
  · rintro (⟨c, h, rfl⟩ | ⟨c, h, ⟨hd, rfl⟩ | ⟨hu, ha, rfl⟩ | ⟨hu, ha, rfl⟩⟩ | ⟨c, h, rfl⟩ |
      ⟨i, h, hc, rfl⟩ | ⟨i, h, rfl⟩ | ⟨k, h, rfl⟩ | ⟨k, h, rfl⟩ | ⟨g, h, rfl⟩ | ⟨g, h, rfl⟩)
    · exact .addColumn h
    · exact .changeColumn h hd
    · exact .addUnique h hu ha
    · exact .dropUnique h hu ha
    · exact .dropColumn h
    · exact .createIndex h hc
    · exact .dropIndex h
    · exact .addForeignKey h
    · exact .dropForeignKey h
    · exact .createTrigger h
    · exact .dropTrigger h
  · intro h
    cases h with
    | addColumn h => exact .inl ⟨_, h, rfl⟩
    | changeColumn h hd => exact .inr (.inl ⟨_, h, .inl ⟨hd, rfl⟩⟩)
    | addUnique h hu ha => exact .inr (.inl ⟨_, h, .inr (.inl ⟨hu, ha, rfl⟩)⟩)
    | dropUnique h hu ha => exact .inr (.inl ⟨_, h, .inr (.inr ⟨hu, ha, rfl⟩)⟩)
    | dropColumn h => exact .inr (.inr (.inl ⟨_, h, rfl⟩))
    | createIndex h hc => exact .inr (.inr (.inr (.inl ⟨_, h, hc, rfl⟩)))
    | dropIndex h => exact .inr (.inr (.inr (.inr (.inl ⟨_, h, rfl⟩))))
    | addForeignKey h => exact .inr (.inr (.inr (.inr (.inr (.inl ⟨_, h, rfl⟩)))))
    | dropForeignKey h => exact .inr (.inr (.inr (.inr (.inr (.inr (.inl ⟨_, h, rfl⟩))))))
    | createTrigger h => exact .inr (.inr (.inr (.inr (.inr (.inr (.inr (.inl ⟨_, h, rfl⟩)))))))
    | dropTrigger h => exact .inr (.inr (.inr (.inr (.inr (.inr (.inr (.inr ⟨_, h, rfl⟩)))))))

end Diff

end TableDraft
