import TableDraft.Draft.Apply
import TableDraft.Client
import TableDraft.Main
import TableDraft.Proofs.Script.Plain
import TableDraft.Proofs.Text.Trim
import TableDraft.Proofs.Statement.Pieces
import TableDraft.Proofs.Sql.ColumnDefinition
import TableDraft.Proofs.Statement.Closed
import TableDraft.Proofs.Script.Body
import TableDraft.Proofs.Statement.Unbroken
import TableDraft.Proofs.Statement.Trigger
import TableDraft.Proofs.Plan.Script
import TableDraft.Proofs.Diff.Completeness
import TableDraft.Proofs.Diff.Mirror
import TableDraft.Proofs.Plan.Reorder
import TableDraft.Proofs.Plan.NoChanges
import TableDraft.Proofs.Checked
import TableDraft.Proofs.Column.Check
import TableDraft.Proofs.Draft.Makes
import TableDraft.Proofs.Draft.Run
import TableDraft.Proofs.Draft.Invariant
import TableDraft.Proofs.Draft.Atomic
import TableDraft.Proofs.Plan.ColumnOps
import TableDraft.Proofs.Plan.ColumnReplay
import TableDraft.Proofs.Draft.ColumnReplay
import TableDraft.Proofs.Command.SameText
import TableDraft.Proofs.Plan.ColumnStatements
import TableDraft.Proofs.Draft.ColumnStatements
import TableDraft.Proofs.Statement.LockRisk
import TableDraft.Proofs.Plan.LockGuard
import TableDraft.Proofs.Rollout.Push
import TableDraft.Proofs.Command.Quiet
import TableDraft.Proofs.Command.Clients
import TableDraft.Proofs.Command.Safety
import TableDraft.Proofs.Json.Written
import TableDraft.Proofs.Json.Short
import TableDraft.Proofs.Definition.Written
import TableDraft.Proofs.Command.Written
import TableDraft.Proofs.Plan.KeyUses
import TableDraft.Proofs.Draft.KeyUses
import TableDraft.Proofs.Draft.Items
import TableDraft.Proofs.Sql.Arguments
import TableDraft.Proofs.Draft.Rename
import TableDraft.Proofs.Catalog.Rows
import TableDraft.Proofs.Catalog.Rename
import TableDraft.Proofs.Catalog.Established
import TableDraft.Proofs.Plan.Comments
import TableDraft.Proofs.Plan.IndexNames
import TableDraft.Proofs.Draft.IndexNames
import TableDraft.Proofs.Script.Literal
import TableDraft.Proofs.Statement.AddColumn
import TableDraft.Proofs.Script.Cuts
import TableDraft.Proofs.Sql.DefaultScan
import TableDraft.Proofs.Script.Turns
import TableDraft.Proofs.Script.Rejoined
import TableDraft.Proofs.Statement.Assignments
import TableDraft.Proofs.Index.Described
import TableDraft.Proofs.Catalog.TriggerBody
import TableDraft.Proofs.Statement.Names
import TableDraft.Proofs.Draft.Undo
import TableDraft.Proofs.Draft.Names
import TableDraft.Proofs.Plan.Rewrites
import TableDraft.Proofs.Profile.Password
import TableDraft.Proofs.Command.LockHistory
