import TableDraft.Draft
import TableDraft.Failure

namespace TableDraft

/-- The arguments of a new column. -/
structure NewColumn where
  name : Value
  dataType : Value
  length : Value
  defaultValue : Value
  nullable : Value
  primaryKey : Value
  autoIncrement : Value
  unique : Value

/-- An edit, with its arguments as they were given. -/
inductive Edit where
  | addColumn (column : NewColumn)
  | updateColumn (id : Value) (changes : Fields)
  | renameColumn (id name : Value)
  | dropColumn (id : Value)
  | addIndex (name columns type : Value)
  | dropIndex (name : Value)
  | addForeignKey (constraintName columnName referencedTable referencedColumn : Value)
  | dropForeignKey (constraintName : Value)
  | addTrigger (name timing event body : Value)
  | dropTrigger (name : Value)
  | discard

namespace Edit

/-- The names an edit is called with: those it needs, and those that have a default. -/
structure Signature where
  needed : List String
  optional : List String

def Signature.accepts (s : Signature) (arguments : Fields) : Bool :=
  s.needed.all (fun n => (arguments.get? n).isSome) &&
    arguments.all fun f => s.needed.contains f.1 || s.optional.contains f.1

def signatures : List (String × Signature) :=
  [("add_column", ⟨["name", "data_type"],
      ["length", "default_value", "nullable", "primary_key", "auto_increment", "unique"]⟩),
    ("rename_column", ⟨["column_id", "name"], []⟩),
    ("drop_column", ⟨["column_id"], []⟩),
    ("add_index", ⟨["name", "columns"], ["index_type"]⟩),
    ("drop_index", ⟨["name"], []⟩),
    ("add_foreign_key",
      ⟨["constraint_name", "column_name", "referenced_table", "referenced_column"], []⟩),
    ("drop_foreign_key", ⟨["constraint_name"], []⟩),
    ("add_trigger", ⟨["name", "timing", "event", "body"], []⟩),
    ("drop_trigger", ⟨["name"], []⟩),
    ("discard", ⟨[], []⟩)]

def ofArguments? (operation : String) (arguments : Fields) : Option Edit :=
  let arg (name : String) (default : Value) : Value := (arguments.get? name).getD default
  let given (name : String) : Value := arg name .null
  match operation with
  | "add_column" => some (.addColumn
      { name := given "name"
        dataType := given "data_type"
        length := given "length"
        defaultValue := given "default_value"
        nullable := arg "nullable" (.bool true)
        primaryKey := arg "primary_key" (.bool false)
        autoIncrement := arg "auto_increment" (.bool false)
        unique := arg "unique" (.bool false) })
  | "rename_column" => some (.renameColumn (given "column_id") (given "name"))
  | "drop_column" => some (.dropColumn (given "column_id"))
  | "add_index" => some (.addIndex (given "name") (given "columns") (arg "index_type" (.text "INDEX")))
  | "drop_index" => some (.dropIndex (given "name"))
  | "add_foreign_key" => some (.addForeignKey (given "constraint_name") (given "column_name")
      (given "referenced_table") (given "referenced_column"))
  | "drop_foreign_key" => some (.dropForeignKey (given "constraint_name"))
  | "add_trigger" => some (.addTrigger (given "name") (given "timing") (given "event") (given "body"))
  | "drop_trigger" => some (.dropTrigger (given "name"))
  | "discard" => some .discard
  | _ => none

/-- The edit that is called by name, if it takes these arguments. -/
def ofCall (operation : String) (arguments : Fields) : Except Failure Edit :=
  match signatures.lookup operation with
  | some s =>
    if s.accepts arguments then
      match ofArguments? operation arguments with
      | some e => .ok e
      | none => .error (.misused (.notCallable operation))
    else .error (.misused (.notCallable operation))
  | none => .error (.misused (.notCallable operation))

/-- Names that the call itself uses, so that no change may go by them. -/
def reservedNames : List String :=
  ["self", "column_id"]

/-- A call to update a column, whose changes are named by attribute. -/
def ofUpdate (id : Value) (changes : Fields) : Except Failure Edit :=
  if reservedNames.any fun n => (changes.get? n).isSome then
    .error (.misused (.notCallable "update_column"))
  else .ok (.updateColumn id changes)

end Edit

end TableDraft
