import TableDraft.Proofs.Draft.ColumnReplay
import TableDraft.Proofs.Plan.KeyUses

namespace TableDraft

/-- Foreign keys and indexes are on columns that are there. -/
def Definition.RefersToColumns (d : Definition) : Prop :=
  (∀ k ∈ d.foreignKeys, k.columnName ∈ d.columnNames) ∧
    ∀ i ∈ d.indexes, ∀ n ∈ i.columns, n ∈ d.columnNames

instance (d : Definition) : Decidable d.RefersToColumns :=
  inferInstanceAs (Decidable (_ ∧ _))

namespace Draft

/-- The statements of the plan before they are written. -/
def steps (d : Draft) : List Statement :=
  (Diff.of d.snapshot d.working).steps d.table

theorem statements_plan (d : Draft) : d.plan.statements = d.steps.map Statement.text := rfl

end Draft

end TableDraft
