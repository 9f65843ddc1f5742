import TableDraft.Draft.Edit
import TableDraft.Text.Case

namespace TableDraft
open TableDraft.Text

/-- What an edit gives back. -/
inductive Made where
  | column (c : Column)
  | index (i : Index)
  | foreignKey (k : ForeignKey)
  | trigger (t : Trigger)
  | nothing
  deriving DecidableEq

namespace Edit

def refuse (e : EditError) : Except Failure α :=
  .error (.refused e)

/-- The text of an argument of which an empty one may be left out in any form. -/
def textOrEmpty (v : Value) (use : String) : Except Failure String :=
  if !v.isTruthy then .ok ""
  else match v with
    | .text s => .ok s
    | v => .error (.notAble v.kindWord use)

/-- A name without blanks around it, which must not be empty. -/
def requiredText (v : Value) (blank : EditError) : Except Failure String := do
  let s ← textOrEmpty v "strip"
  if trimmed s = "" then refuse blank else pure (trimmed s)

def capitals (v : Value) : Except Failure String :=
  match v with
  | .text s => .ok (uppered s)
  | v => .error (.notAble v.kindWord "upper")

def findColumn (w : Definition) (id : Value) : Except Failure Column :=
  match w.columns.find? (·.id.isValue id) with
  | some c => .ok c
  | none => refuse (.noColumn id.display)

def requireFreeColumn (w : Definition) (name : String) : Except Failure Unit :=
  if w.columns.any (·.name = name) then refuse (.columnTaken name) else pure ()

end Edit

namespace Definition
open Edit

/-- The fields of a new column, of which some are checked by themselves. -/
def newColumnFields (w : Definition) (a : NewColumn) : Except Failure Fields := do
  let name ← requiredText a.name .blankColumnName
  let dataType ← requiredText a.dataType .blankDataType
  requireFreeColumn w name
  pure [("name", .text name), ("data_type", .text (uppered dataType)), ("length", a.length),
    ("default_value", a.defaultValue), ("nullable", a.nullable), ("primary_key", a.primaryKey),
    ("auto_increment", a.autoIncrement), ("unique", a.unique)]

def columnAttributes : List String :=
  ["id", "name", "original_name", "data_type", "length", "default_value", "nullable", "primary_key",
    "auto_increment", "unique"]

def fixedAttributes : List String :=
  ["id", "original_name"]

def sorted (names : List String) : List String :=
  names.mergeSort fun a b => decide (a ≤ b)

def checkAttributes (changes : Fields) : Except Failure Unit :=
  let names := changes.map (·.1)
  let unknown := names.filter fun n => !columnAttributes.contains n
  let fixed := names.filter fixedAttributes.contains
  if !unknown.isEmpty then refuse (.unknownAttributes (sorted unknown))
  else if !fixed.isEmpty then refuse (.fixedAttributes (sorted fixed))
  else pure ()

/-- A column may be given its own name again. -/
def checkedName (w : Definition) (current : Column) (changes : Fields) : Except Failure Fields :=
  match changes.get? "name" with
  | none => pure changes
  | some v => do
    let name ← requiredText v .blankColumnName
    if name ≠ current.name then requireFreeColumn w name
    pure (changes.put "name" (.text name))

def checkedDataType (changes : Fields) : Except Failure Fields :=
  match changes.get? "data_type" with
  | none => pure changes
  | some v =>
    let dataType := trimmed (if v.isTruthy then v.display else "")
    if dataType = "" then refuse .blankDataType
    else pure (changes.put "data_type" (.text (uppered dataType)))

/-- The column with the changes made, its id kept. -/
def changedColumn (current : Column) (changes : Fields) : Checked Column :=
  Column.checkFields current.id (changes.foldl (fun fields f => fields.put f.1 f.2) current.fields)

def updatedColumn (w : Definition) (id : Value) (changes : Fields) : Except Failure Column := do
  let current ← findColumn w id
  checkAttributes changes
  let changes ← checkedName w current changes
  let changes ← checkedDataType changes
  match changedColumn current changes with
  | .bad faults => refuse (.badAttributes faults)
  | .good c => pure c

def withColumn (w : Definition) (id : Value) (c : Column) : Definition :=
  { w with columns := w.columns.map fun d => if d.id.isValue id then c else d }

def indexTypes : List String :=
  ["INDEX", "UNIQUE", "FULLTEXT"]

/-- The items of a list of columns. A text lists its characters, and an object its keys. -/
def columnItems (v : Value) : Except Failure (List Value) :=
  match v with
  | .list items => .ok items
  | .text s => .ok (s.toList.map fun c => .text (String.ofList [c]))
  | .object fields => .ok (fields.map fun f => .text f.1)
  | v => .error (.misused (.notIterable v.kindWord))

def columnName (v : Value) : Except Failure String :=
  ((checkText v).within (.field "column_name")).orFail .indexRow

def newIndex (w : Definition) (name columns type : Value) : Except Failure Index := do
  let name ← requiredText name .blankIndexName
  if !columns.isTruthy then refuse .noIndexColumns
  let kind ← capitals type
  if !indexTypes.contains kind then refuse (.unknownIndexType type.display)
  if w.indexes.any (·.name = name) then refuse .indexTaken
  let names ← (← columnItems columns).mapM columnName
  match Index.build? (some name) names kind with
  | some i => pure i
  | none => .error (.emptyIndex (some name))

def newForeignKey (w : Definition) (constraintName columnName table column : Value) :
    Except Failure ForeignKey := do
  let given := [constraintName, columnName, table, column]
  if given.any (!·.isTruthy) then refuse .blankForeignKey
  if w.foreignKeys.any fun k => constraintName.isText k.constraintName then refuse .foreignKeyTaken
  (ForeignKey.checkFields [("constraint_name", constraintName), ("column_name", columnName),
    ("referenced_table", table), ("referenced_column", column)]).orFail .foreignKey

def triggerTimings : List String :=
  ["BEFORE", "AFTER"]

def triggerEvents : List String :=
  ["INSERT", "UPDATE", "DELETE"]

def newTrigger (w : Definition) (name timing event body : Value) : Except Failure Trigger := do
  let name ← requiredText name .blankTriggerName
  let timing ← capitals timing
  if !triggerTimings.contains timing then refuse .badTiming
  let event ← capitals event
  if !triggerEvents.contains event then refuse .badEvent
  if w.triggers.any (·.name = name) then refuse .triggerTaken
  (Trigger.checkFields [("name", .text name), ("timing", .text timing), ("event", .text event),
    ("body", body)]).orFail .trigger

end Definition

/-- Work on a draft, with the ids for its new columns. What was done before a failure stays done. -/
abbrev Editing := ExceptT Failure (StateM (Draft × IdSupply))

namespace Editing
open Edit

def ofExcept (e : Except Failure α) : Editing α :=
  match e with
  | .ok a => pure a
  | .error f => throw f

def working : Editing Definition := do
  return (← get).1.working

/-- The next id of the supply, which is then used up. -/
def takeId : Editing ColumnId :=
  modifyGet fun (d, ids) => (ids.next, d, ids.advance)

def replace (w : Definition) : Editing Unit :=
  modify fun (d, ids) => ({ d with working := w }, ids)

/-- What is to be dropped has to be there. -/
def require (found : Bool) (missing : EditError) : Editing Unit :=
  ofExcept (if found then pure () else refuse missing)

/-- A new column takes an id before it is checked, so that a faulty one uses it up too. -/
def addColumn (a : NewColumn) : Editing Made := do
  let w ← working
  let fields ← ofExcept (w.newColumnFields a)
  let id ← takeId
  let c ← ofExcept ((Column.checkFields id fields).orFail .column)
  replace { w with columns := w.columns ++ [c] }
  pure (.column c)

def updateColumn (id : Value) (changes : Fields) : Editing Made := do
  let w ← working
  let c ← ofExcept (w.updatedColumn id changes)
  replace (w.withColumn id c)
  pure (.column c)

def dropColumn (id : Value) : Editing Made := do
  let w ← working
  let _ ← ofExcept (findColumn w id)
  replace { w with columns := w.columns.filter fun c => !c.id.isValue id }
  pure .nothing

def addIndex (name columns type : Value) : Editing Made := do
  let w ← working
  let i ← ofExcept (w.newIndex name columns type)
  replace { w with indexes := w.indexes ++ [i] }
  pure (.index i)

def dropIndex (name : Value) : Editing Made := do
  let w ← working
  require (w.indexes.any fun i => name.isText i.name) (.noIndex name.display)
  replace { w with indexes := w.indexes.filter fun i => !name.isText i.name }
  pure .nothing

def addForeignKey (constraintName columnName table column : Value) : Editing Made := do
  let w ← working
  let k ← ofExcept (w.newForeignKey constraintName columnName table column)
  replace { w with foreignKeys := w.foreignKeys ++ [k] }
  pure (.foreignKey k)

def dropForeignKey (name : Value) : Editing Made := do
  let w ← working
  require (w.foreignKeys.any fun k => name.isText k.constraintName) (.noForeignKey name.display)
  replace { w with foreignKeys := w.foreignKeys.filter fun k => !name.isText k.constraintName }
  pure .nothing

def addTrigger (name timing event body : Value) : Editing Made := do
  let w ← working
  let t ← ofExcept (w.newTrigger name timing event body)
  replace { w with triggers := w.triggers ++ [t] }
  pure (.trigger t)

def dropTrigger (name : Value) : Editing Made := do
  let w ← working
  require (w.triggers.any fun t => name.isText t.name) (.noTrigger name.display)
  replace { w with triggers := w.triggers.filter fun t => !name.isText t.name }
  pure .nothing

def discard : Editing Made := do
  modify fun (d, ids) => (d.discard, ids)
  pure .nothing

end Editing

def Edit.perform : Edit → Editing Made
  | .addColumn a => Editing.addColumn a
  | .updateColumn id changes => Editing.updateColumn id changes
  | .renameColumn id name => Editing.updateColumn id [("name", name)]
  | .dropColumn id => Editing.dropColumn id
  | .addIndex name columns type => Editing.addIndex name columns type
  | .dropIndex name => Editing.dropIndex name
  | .addForeignKey name column table other => Editing.addForeignKey name column table other
  | .dropForeignKey name => Editing.dropForeignKey name
  | .addTrigger name timing event body => Editing.addTrigger name timing event body
  | .dropTrigger name => Editing.dropTrigger name
  | .discard => Editing.discard

/-- Applies an edit: what it made, or why it failed, with the draft and the ids after it. -/
def Draft.apply (d : Draft) (ids : IdSupply) (e : Edit) :
    Except Failure Made × Draft × IdSupply :=
  e.perform (d, ids)

end TableDraft
