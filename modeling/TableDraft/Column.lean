import TableDraft.Fault

namespace TableDraft

/-- A whole number or a text, whichever was written. -/
inductive Mark where
  | number (n : Int)
  | word (s : String)
  deriving DecidableEq

namespace Mark

def text : Mark → String
  | number n => toString n
  | word s => s

def neither (kind : FaultKind) : Checked Mark :=
  .bad [⟨kind, [.field "int"]⟩, ⟨.notText, [.field "str"]⟩]

/-- Truth values count as 0 and 1, and a float as the whole number it equals, if that is not too
large. -/
def check : Value → Checked Mark
  | .int n => .good (number n)
  | .text s => .good (word s)
  | .bool b => .good (number (if b then 1 else 0))
  | .float x => match wholeOfFloat x with
    | .ok n => .good (number n)
    | .error kind => neither kind
  | _ => neither .notInteger

def value : Mark → Value
  | number n => .int n
  | word s => .text s

end Mark

abbrev ColumnId := Mark

/-- Names for the columns that come without an id. -/
structure IdSupply where
  name : Nat → String
  issued : Nat

namespace IdSupply

def next (ids : IdSupply) : ColumnId :=
  .word (ids.name (ids.issued + 1))

def advance (ids : IdSupply) : IdSupply :=
  { ids with issued := ids.issued + 1 }

end IdSupply

/-- A column. While it is edited it is known by its id, and to the server by its original name. -/
structure Column where
  id : ColumnId
  name : String
  originalName : Option String
  dataType : String
  length : Option Mark
  defaultValue : Option String
  nullable : Bool
  primaryKey : Bool
  autoIncrement : Bool
  unique : Bool
  deriving DecidableEq

namespace Column

/-- A column that names no original is its own, unless its name is empty. -/
def withOriginal (fields : Fields) : Fields :=
  match fields.get? "name" with
  | some name =>
    if name.isTruthy && !((fields.get? "original_name").getD .null).isTruthy then
      fields.put "original_name" name
    else fields
  | none => fields

def checkFields (fresh : ColumnId) (raw : Fields) : Checked Column :=
  let fields := withOriginal raw
  Column.mk
    <$> fields.orElse "id" fresh Mark.check
    <*> fields.required "name" checkText
    <*> fields.orElse "original_name" none (checkOptional checkText)
    <*> fields.required "data_type" checkText
    <*> fields.orElse "length" none (checkOptional Mark.check)
    <*> fields.orElse "default_value" none (checkOptional checkText)
    <*> fields.orElse "nullable" true checkFlag
    <*> fields.orElse "primary_key" false checkFlag
    <*> fields.orElse "auto_increment" false checkFlag
    <*> fields.orElse "unique" false checkFlag

/-- Checks a column. An object without an id uses up the next one of the supply, whether or not it
is a good column. -/
def check (ids : IdSupply) : Value → Checked Column × IdSupply
  | .object fields =>
    (checkFields ids.next fields, if (Fields.get? fields "id").isSome then ids else ids.advance)
  | _ => (.fault .notObject, ids)

def checkItems (ids : IdSupply) : (index : Nat) → List Value → Checked (List Column) × IdSupply
  | _, [] => (.good [], ids)
  | i, v :: r =>
    let (first, ids₁) := check ids v
    let (rest, ids₂) := checkItems ids₁ (i + 1) r
    (List.cons <$> first.within (.item i) <*> rest, ids₂)

def checkList (ids : IdSupply) : Value → Checked (List Column) × IdSupply
  | .list items => checkItems ids 0 items
  | _ => (.fault .notList, ids)

def fields (c : Column) : Fields :=
  [("id", c.id.value), ("name", .text c.name), ("original_name", Value.ofText? c.originalName),
    ("data_type", .text c.dataType), ("length", (c.length.map Mark.value).getD .null),
    ("default_value", Value.ofText? c.defaultValue), ("nullable", .bool c.nullable),
    ("primary_key", .bool c.primaryKey), ("auto_increment", .bool c.autoIncrement),
    ("unique", .bool c.unique)]

/-- The name the server knows the column by. -/
def sourceName (c : Column) : String :=
  match c.originalName with
  | some s => if s = "" then c.name else s
  | none => c.name

end Column

end TableDraft
