import TableDraft.Definition
import TableDraft.Server
import TableDraft.Sql.Block
import TableDraft.Sql.ColumnType
import TableDraft.Text.Search
import TableDraft.Value.Display

namespace TableDraft.Catalog
open TableDraft.Sql TableDraft.Text

def rowFields (row : Value) : Except Failure Fields :=
  match row with
  | .object fields => .ok fields
  | v => .error (.misused (.notRow v.kindWord))

def cell (fields : Fields) (name : String) : Except Failure Value :=
  match fields.get? name with
  | some v => .ok v
  | none => .error (.missingKey name)

def cellOrNull (fields : Fields) (name : String) : Value :=
  (fields.get? name).getD .null

def truthyOr (v other : Value) : Value :=
  if v.isTruthy then v else other

/-- Types whose scale or list of values is found in the full type only. -/
def fullTypeNames : List (List Char) :=
  ["decimal", "numeric", "float", "double", "real", "enum", "set"].map String.toList

def wordAt (word s : List Char) : Bool :=
  match afterWord? word s with
  | some r => atWordEnd r
  | none => false

/-- Whether one of the words stands in a text, where `start` says that a word may begin. -/
def hasWord (ws : List (List Char)) : (start : Bool) → List Char → Bool
  | _, [] => false
  | start, c :: r => (start && ws.any (wordAt · (c :: r))) || hasWord ws (!isWordChar c) r

def modifierWords : List (List Char) :=
  ["UNSIGNED".toList, "ZEROFILL".toList]

def needsFullType (dataType columnType : String) : Bool :=
  columnType != "" &&
    (fullTypeNames.contains (lowerAscii dataType.toList) || hasWord modifierWords true columnType.toList)

/-- The data type and length of a column. -/
def typeOfRow (fields : Fields) (dataType : String) : String × Value :=
  let columnType := (truthyOr (cellOrNull fields "column_type") (.text "")).display
  if needsFullType dataType columnType then (fullType columnType, .null)
  else (uppered dataType,
    truthyOr (cellOrNull fields "char_length") (truthyOr (cellOrNull fields "numeric_precision") .null))

def mentionsAutoIncrement (extra : Value) : Except Failure Bool :=
  if !extra.isTruthy then .ok false
  else match extra with
    | .text s => .ok (occurs "auto_increment".toList (lowerAscii s.toList))
    | v => .error (.notAble v.kindWord "lower")

def columnFields (row : Value) : Except Failure Fields := do
  let fields ← rowFields row
  let dataType ← cell fields "data_type"
  let (type, length) := typeOfRow fields dataType.display
  let default := cellOrNull fields "column_default"
  let name ← cell fields "name"
  let autoIncrement ← mentionsAutoIncrement (cellOrNull fields "extra")
  let key := cellOrNull fields "column_key"
  pure [("name", name), ("data_type", .text type), ("length", length),
    ("default_value", if default.isNull then .null else .text default.display),
    ("nullable", .bool ((cellOrNull fields "is_nullable").isText "YES")),
    ("primary_key", .bool (key.isText "PRI")), ("auto_increment", .bool autoIncrement),
    ("unique", .bool (key.isText "UNI"))]

def columnsOfRows (ids : IdSupply) : List Value → Except Failure (List Column × IdSupply)
  | [] => .ok ([], ids)
  | row :: r => do
    let fields ← columnFields row
    let column ← (Column.checkFields ids.next fields).orFail .column
    let (rest, ids') ← columnsOfRows ids.advance r
    pure (column :: rest, ids')

/-- A key part without a column name belongs to an expression and is left out. -/
def indexRowOfRow (row : Value) : Except Failure (Option IndexRow) :=
  match row with
  | .object fields =>
    let columnName := cellOrNull fields "column_name"
    if columnName.isNull then .ok none
    else
      let nonUnique := (Fields.get? fields "non_unique").getD (.int 1)
      some <$> (IndexRow.check (.object [("name", cellOrNull fields "name"), ("column_name", columnName),
        ("non_unique", .bool nonUnique.isTruthy),
        ("index_type", cellOrNull fields "index_type")])).orFail .indexRow
  | v => .error (.notAble v.kindWord "get")

def indexRowsOfRows (rows : List Value) : Except Failure (List IndexRow) := do
  let found ← rows.mapM indexRowOfRow
  pure (found.filterMap id)

/-- Names that can be compared with those seen before. -/
def checkHashable (v : Value) : Except Failure Unit :=
  match v with
  | .list _ => .error (.misused (.notHashable v.kindWord))
  | .object _ => .error (.misused (.notHashable v.kindWord))
  | _ => .ok ()

/-- Keeps the first row of each constraint. -/
def foreignKeysOfRows (seen : List String) : List Value → Except Failure (List ForeignKey)
  | [] => .ok []
  | row :: r => do
    let fields ← rowFields row
    let name ← cell fields "constraint_name"
    checkHashable name
    if seen.any (name.isText ·) then foreignKeysOfRows seen r
    else
      let columnName ← cell fields "column_name"
      let table ← cell fields "referenced_table"
      let column ← cell fields "referenced_column"
      let key ← (ForeignKey.checkFields [("constraint_name", name), ("column_name", columnName),
        ("referenced_table", table), ("referenced_column", column)]).orFail .foreignKey
      let rest ← foreignKeysOfRows (key.constraintName :: seen) r
      pure (key :: rest)

def triggerOfRow (row : Value) : Except Failure Trigger := do
  let fields ← rowFields row
  let name ← cell fields "name"
  let timing ← cell fields "timing"
  let event ← cell fields "event"
  let statement ← match truthyOr (cellOrNull fields "statement") (.text "") with
    | .text s => .ok s
    | v => .error (.misused (.notSearchable v.kindWord))
  (Trigger.checkFields [("name", name), ("timing", timing), ("event", event),
    ("body", .text (unwrapBlock statement))]).orFail .trigger

/-- Loads a table. Its columns are asked for first, and a table without any is not there. -/
def load (s : Server) (ids : IdSupply) (database table : String) :
    OnServer (Definition × IdSupply) := do
  let (columns, ids') ← OnServer.ofExcept (columnsOfRows ids (← s.fetch .columns database table))
  if columns.isEmpty then throw (.noTable database table)
  let rows ← OnServer.ofExcept (indexRowsOfRows (← s.fetch .statistics database table))
  let keys ← OnServer.ofExcept (foreignKeysOfRows [] (← s.fetch .keyColumnUsage database table))
  let triggers ← OnServer.ofExcept ((← s.fetch .triggers database table).mapM triggerOfRow)
  pure (Definition.ofCatalog columns rows keys triggers, ids')

/-- Something that loads tables, either through a client it was given or through one that it opens
for a while. -/
structure Inspector where
  url : Option String
  given : Bool
  connected : Bool
  deriving DecidableEq

namespace Inspector

def make (url : Option String) (given : Bool) : Except Failure Inspector :=
  if url.isNone && !given then .error .noSource else .ok ⟨url, given, given⟩

def enter (i : Inspector) : OnServer Inspector := do
  if !i.connected then Server.connect (i.url.getD "")
  pure { i with connected := true }

/-- Closes the client, unless it was given. -/
def leave (i : Inspector) : OnServer Inspector := do
  if !i.given && i.connected then
    Server.close
    pure { i with connected := false }
  else pure i

def load (i : Inspector) (s : Server) (ids : IdSupply) (database table : String) :
    OnServer (Definition × IdSupply) :=
  if i.connected then Catalog.load s ids database table else throw .notConnected

/-- Enters, loads and leaves, whether or not loading succeeds. -/
def loadWithin (i : Inspector) (s : Server) (ids : IdSupply) (database table : String) :
    OnServer (Definition × IdSupply) := do
  let entered ← i.enter
  finallyDo (entered.load s ids database table) (do let _ ← entered.leave)

end Inspector

end TableDraft.Catalog
