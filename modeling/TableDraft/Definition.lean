import TableDraft.Column
import TableDraft.ForeignKey
import TableDraft.Index
import TableDraft.Trigger

namespace TableDraft

structure Definition where
  columns : List Column
  indexes : List Index
  foreignKeys : List ForeignKey
  triggers : List Trigger
  deriving DecidableEq

namespace Definition

def empty : Definition :=
  ⟨[], [], [], []⟩

/-- A definition from the rows of a catalog, whose index rows are grouped. -/
def ofCatalog (columns : List Column) (rows : List IndexRow) (keys : List ForeignKey)
    (triggers : List Trigger) : Definition :=
  ⟨columns, Index.group rows, keys, triggers⟩

def checkFields (ids : IdSupply) (fields : Fields) : Checked Definition × IdSupply :=
  let (columns, ids') := match fields.get? "columns" with
    | some v =>
      let (checked, rest) := Column.checkList ids v
      (checked.within (.field "columns"), rest)
    | none => (.good [], ids)
  (Definition.mk
    <$> columns
    <*> fields.orElse "indexes" [] (checkList Index.check)
    <*> fields.orElse "foreign_keys" [] (checkList ForeignKey.check)
    <*> fields.orElse "triggers" [] (checkList Trigger.check), ids')

def check (ids : IdSupply) : Value → Checked Definition × IdSupply
  | .object fields => checkFields ids fields
  | _ => (.fault .notObject, ids)

def value (d : Definition) : Value :=
  .object [("columns", .list (d.columns.map fun c => .object c.fields)),
    ("indexes", .list (d.indexes.map fun i => .object i.fields)),
    ("foreign_keys", .list (d.foreignKeys.map fun k => .object k.fields)),
    ("triggers", .list (d.triggers.map fun t => .object t.fields))]

end Definition

end TableDraft
