import TableDraft.Diff
import TableDraft.LockRisk
import TableDraft.Statement

namespace TableDraft

namespace ColumnChange

/-- A change of definition comes before a change of uniqueness. -/
def steps (table : String) (c : ColumnChange) : List Statement :=
  (if c.definitionChanged then [.changeColumn table c.before c.after] else []) ++
    if c.uniqueChanged then
      [if c.after.unique then .addUnique table c.after else .dropUnique table c.before]
    else []

/-- Dropping uniqueness guesses the name of the index, which is worth a note. -/
def note? (c : ColumnChange) : Option String :=
  if c.uniqueChanged && !c.after.unique then
    let source := c.before.sourceName
    some ("Unique index on " ++ source ++ " is assumed to be named " ++ uniqueIndexName source ++ ".")
  else none

end ColumnChange

namespace Diff

/-- The order of the kinds is fixed, whatever the statements depend on. Columns are added, then changed,
then removed; after them indexes, foreign keys and triggers, each added before any is removed. -/
def steps (table : String) (d : Diff) : List Statement :=
  d.addedColumns.map (.addColumn table) ++
    d.changedColumns.flatMap (ColumnChange.steps table) ++
    d.removedColumns.map (.dropColumn table) ++
    d.indexes.added.filterMap (Statement.createIndex? table) ++
    d.indexes.removed.map (.dropIndex table) ++
    d.foreignKeys.added.map (.addForeignKey table) ++
    d.foreignKeys.removed.map (.dropForeignKey table) ++
    d.triggers.added.map (.createTrigger table) ++
    d.triggers.removed.map .dropTrigger

def notes (d : Diff) : List String :=
  d.changedColumns.filterMap ColumnChange.note?

end Diff

structure Plan where
  database : String
  table : String
  statements : List String
  notes : List String
  deriving DecidableEq

namespace Plan

def compile (database table : String) (snapshot working : Definition) : Plan :=
  let diff := Diff.of snapshot working
  { database
    table
    statements := (diff.steps table).map Statement.text
    notes := diff.notes }

def warnings (p : Plan) : List LockWarning :=
  LockRisk.assessAll p.statements

def highRisk (p : Plan) : List LockWarning :=
  p.warnings.filter (·.severity = .high)

def hasChanges (p : Plan) : Bool :=
  !p.statements.isEmpty

def noChanges : String := "-- No changes detected."

/-- The plan as a script under a comment header; a plan without statements says so. -/
def script (p : Plan) : String :=
  if p.hasChanges then
    String.intercalate "\n" (("-- Schema Change Plan for " ++ p.database ++ "." ++ p.table) ::
      p.notes.map ("-- NOTE: " ++ ·) ++ p.statements)
  else noChanges

end Plan

end TableDraft
