import TableDraft.Definition
import TableDraft.Matching
import TableDraft.Text.Blank

namespace TableDraft
open TableDraft.Text

/-- A length as it is compared: no length and a blank one are the same, and so are a number and its
text. -/
def looseLength (length : Option Mark) : String :=
  match length with
  | some m => trimmed m.text
  | none => ""

def lengthsEqual (a b : Option Mark) : Bool :=
  looseLength a == looseLength b

/-- A column on both sides. Its uniqueness is changed by a statement of its own, and so is told apart
from its definition. -/
structure ColumnChange where
  before : Column
  after : Column
  deriving DecidableEq

namespace ColumnChange

/-- Defaults and primary keys do not count. -/
def definitionChanged (c : ColumnChange) : Bool :=
  c.before.name != c.after.name || c.before.dataType != c.after.dataType ||
    !lengthsEqual c.before.length c.after.length || c.before.nullable != c.after.nullable ||
    c.before.autoIncrement != c.after.autoIncrement

def uniqueChanged (c : ColumnChange) : Bool :=
  c.before.unique != c.after.unique

end ColumnChange

structure Diff where
  addedColumns : List Column
  removedColumns : List Column
  changedColumns : List ColumnChange
  indexes : NameMatch Index
  foreignKeys : NameMatch ForeignKey
  triggers : NameMatch Trigger
  deriving DecidableEq

namespace Diff

def of (snapshot working : Definition) : Diff :=
  let columns := ColumnMatch.of snapshot.columns working.columns
  { addedColumns := columns.added
    removedColumns := columns.removed
    changedColumns := (columns.matched.map fun p => ⟨p.1, p.2⟩).filter fun c =>
      c.definitionChanged || c.uniqueChanged
    indexes := NameMatch.of Index.name snapshot.indexes working.indexes
    foreignKeys := NameMatch.of ForeignKey.constraintName snapshot.foreignKeys working.foreignKeys
    triggers := NameMatch.of Trigger.name snapshot.triggers working.triggers }

def isEmpty (d : Diff) : Bool :=
  d.addedColumns.isEmpty && d.removedColumns.isEmpty && d.changedColumns.isEmpty &&
    d.indexes.isEmpty && d.foreignKeys.isEmpty && d.triggers.isEmpty

end Diff

end TableDraft
