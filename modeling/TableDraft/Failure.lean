import TableDraft.Fault
import TableDraft.Text.Quoted
import TableDraft.Toml.Scalar

namespace TableDraft

/-- The kinds of record that are checked. -/
inductive Entity where
  | column
  | indexRow
  | index
  | foreignKey
  | trigger
  | definition
  | profile
  | config
  | connection
  | pushResult
  | lockWarning
  deriving DecidableEq

def Entity.title : Entity → String
  | column => "Column"
  | indexRow => "IndexRow"
  | index => "Index"
  | foreignKey => "ForeignKey"
  | trigger => "Trigger"
  | definition => "TableDefinition"
  | profile => "DatabaseProfile"
  | config => "DatabaseConfig"
  | connection => "ConnectionResult"
  | pushResult => "PushResult"
  | lockWarning => "LockWarning"

/-- Why an edit is refused. -/
inductive EditError where
  | blankColumnName
  | blankDataType
  | columnTaken (name : String)
  | noColumn (id : String)
  | unknownAttributes (names : List String)
  | fixedAttributes (names : List String)
  | badAttributes (faults : List Fault)
  | blankIndexName
  | noIndexColumns
  | unknownIndexType (type : String)
  | indexTaken
  | noIndex (name : String)
  | blankForeignKey
  | foreignKeyTaken
  | noForeignKey (name : String)
  | blankTriggerName
  | badTiming
  | badEvent
  | triggerTaken
  | noTrigger (name : String)
  deriving DecidableEq

def EditError.message : EditError → String
  | blankColumnName => "Please enter a column name."
  | blankDataType => "Please choose a data type."
  | columnTaken name => "Column '" ++ name ++ "' already exists."
  | noColumn id => "Column '" ++ id ++ "' not found"
  | unknownAttributes names => "Unknown column attribute(s): " ++ String.intercalate ", " names
  | fixedAttributes names => "Column attribute(s) cannot change: " ++ String.intercalate ", " names
  | badAttributes _ => "Invalid column attribute(s)"
  | blankIndexName => "Please enter an index name."
  | noIndexColumns => "Please select at least one column."
  | unknownIndexType type => "Unknown index type: " ++ type
  | indexTaken => "Index name already exists."
  | noIndex name => "Index '" ++ name ++ "' not found"
  | blankForeignKey => "Please fill in all fields."
  | foreignKeyTaken => "Constraint name exists."
  | noForeignKey name => "Foreign key '" ++ name ++ "' not found"
  | blankTriggerName => "Please enter a trigger name."
  | badTiming => "Trigger timing must be one of BEFORE, AFTER"
  | badEvent => "Trigger event must be one of INSERT, UPDATE, DELETE"
  | triggerTaken => "Trigger name already exists."
  | noTrigger name => "Trigger '" ++ name ++ "' not found"

/-- A use that a value does not allow. Each names the kind of the value. -/
inductive Misuse where
  | notCallable (operation : String)
  | notIterable (kind : String)
  | notHashable (kind : String)
  | notSearchable (kind : String)
  | notRow (kind : String)
  | notProfile (kind : String)
  deriving DecidableEq

def Misuse.message : Misuse → String
  | notCallable operation => operation ++ "() got unexpected or missing arguments"
  | notIterable kind => "'" ++ kind ++ "' object is not iterable"
  | notHashable kind => "unhashable type: '" ++ kind ++ "'"
  | notSearchable kind => "expected string or bytes-like object, got '" ++ kind ++ "'"
  | notRow "list" => "list indices must be integers or slices, not str"
  | notRow "str" => "string indices must be integers, not 'str'"
  | notRow kind => "'" ++ kind ++ "' object is not subscriptable"
  | notProfile kind => "argument after ** must be a mapping, not " ++ kind

inductive Failure where
  | faulty (entity : Entity) (faults : List Fault)
  | refused (e : EditError)
  | emptyIndex (name : Option String)
  /-- A value of this kind was used in a way that only texts or tables can be. -/
  | notAble (kind use : String)
  | misused (m : Misuse)
  | missingKey (key : String)
  | noSource
  | notConnected
  | noTable (database table : String)
  | statementsUnsupported
  | server (message : String)
  | noConfig (directory : String)
  | badConfig (problem : Toml.Problem)
  | noProfile (setting : String)
  | unknownProfile (name : String) (available : List String)
  | noDefinition (path : String)
  | noDirectory (path : String)
  | isDirectory (path : String)
  | notDirectory (path : String)
  | longName (path : String)
  | nulInPath
  deriving DecidableEq

namespace Failure

/-- How a report on a faulty record begins. -/
def report (entity : Entity) (faults : List Fault) : String :=
  toString faults.length ++ " validation error" ++ (if faults.length = 1 then "" else "s") ++ " for " ++
    entity.title

def message : Failure → String
  | faulty entity faults => report entity faults
  | refused e => e.message
  | emptyIndex name => "Index '" ++ name.getD "None" ++ "' has no columns"
  | notAble kind use => "'" ++ kind ++ "' object has no attribute '" ++ use ++ "'"
  | misused m => m.message
  | missingKey key => key
  | noSource => "TableIntrospector needs a database_url or a client"
  | notConnected => "Introspector not connected. Use async with statement."
  | noTable database table => "Table " ++ database ++ "." ++ table ++ " not found"
  | statementsUnsupported => "DDL operations not supported for this adapter type"
  | server message => message
  | noConfig directory =>
    "Database config not found: " ++ directory ++ "/db.toml\n" ++
      "Create db.toml with a [profiles.<name>] section for each server."
  | badConfig (.longNumber digits) =>
    "Exceeds the limit (" ++ toString Number.digitLimit ++
      " digits) for integer string conversion: value has " ++ toString digits ++
      " digits; use sys.set_int_max_str_digits() to increase the limit"
  | badConfig _ => "Invalid db.toml"
  | noProfile setting =>
    "No database profile configured.\nRun: " ++ setting ++ "=<name> schema-designer connect\n" ++
      "Profiles are defined in db.toml (see: schema-designer profiles)"
  | unknownProfile name available =>
    "Profile '" ++ name ++ "' not found in db.toml.\nAvailable profiles: " ++
      String.intercalate ", " available
  | noDefinition path => "Definition file not found: " ++ path
  | noDirectory path => "[Errno 2] No such file or directory: " ++ Text.quotedText path
  | isDirectory path => "[Errno 21] Is a directory: " ++ Text.quotedText path
  | notDirectory path => "[Errno 20] Not a directory: " ++ Text.quotedText path
  | longName path => "[Errno 36] File name too long: " ++ Text.quotedText path
  | nulInPath => "embedded null byte"

/-- A missing key or profile is named in quotes where it is printed. -/
def isLookup : Failure → Bool
  | missingKey _ => true
  | unknownProfile .. => true
  | _ => false

/-- The message as a command prints it. -/
def printed (f : Failure) : String :=
  if f.isLookup then Text.quotedText f.message else f.message

end Failure

/-- The value of a check, or its faults as a failure. -/
def Checked.orFail (entity : Entity) : Checked α → Except Failure α
  | good a => .ok a
  | bad faults => .error (.faulty entity faults)

end TableDraft
