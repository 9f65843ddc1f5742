import TableDraft.Fault
import TableDraft.Text.Case

namespace TableDraft
open TableDraft.Text

/-- One column of an index, as a catalog lists it. -/
structure IndexRow where
  name : Option String
  columnName : String
  nonUnique : Bool
  indexType : Option String
  deriving DecidableEq

structure Index where
  name : String
  type : String
  unique : Bool
  columns : List String
  deriving DecidableEq

namespace IndexRow

def check : Value → Checked IndexRow :=
  checkObject fun fields =>
    IndexRow.mk
      <$> fields.orElse "name" none (checkOptional checkText)
      <*> fields.required "column_name" checkText
      <*> fields.orElse "non_unique" true checkFlag
      <*> fields.orElse "index_type" none (checkOptional checkText)

def fields (r : IndexRow) : Fields :=
  [("name", Value.ofText? r.name), ("column_name", .text r.columnName),
    ("non_unique", .bool r.nonUnique), ("index_type", Value.ofText? r.indexType)]

def isFulltext (r : IndexRow) : Bool :=
  match r.indexType with
  | some t => uppered t == "FULLTEXT"
  | none => false

end IndexRow

namespace Index

def check : Value → Checked Index :=
  checkObject fun fields =>
    Index.mk
      <$> fields.required "name" checkText
      <*> fields.orElse "type" "INDEX" checkText
      <*> fields.orElse "unique" false checkFlag
      <*> fields.orElse "columns" [] (checkList checkText)

def fields (i : Index) : Fields :=
  [("name", .text i.name), ("type", .text i.type), ("unique", .bool i.unique),
    ("columns", .list (i.columns.map .text))]

/-- The index that the first row of a name opens, still without columns. -/
def opened (name : String) (r : IndexRow) : Index :=
  { name
    type := if r.nonUnique then
        match r.indexType with
        | some t => if t = "" then "INDEX" else t
        | none => "INDEX"
      else "UNIQUE"
    unique := !r.nonUnique
    columns := [] }

/-- Takes a row of the index in. A full-text row makes the whole index one, and a column that is
there already is not repeated. -/
def absorb (i : Index) (r : IndexRow) : Index :=
  { i with
    type := if r.isFulltext then "FULLTEXT" else i.type
    columns := if i.columns.contains r.columnName then i.columns else i.columns ++ [r.columnName] }

@[simp] theorem name_absorb (i : Index) (r : IndexRow) : (i.absorb r).name = i.name := rfl

theorem nodup_columns_absorb {i : Index} (r : IndexRow) (h : i.columns.Nodup) :
    (i.absorb r).columns.Nodup := by
  unfold absorb
  dsimp only
  split
  · exact h
  next hc =>
    rw [List.nodup_append]
    refine ⟨h, by simp, fun a ha b hb hab => hc ?_⟩
    rw [List.contains_iff_mem, ← List.mem_singleton.1 hb, ← hab]
    exact ha

/-- Adds a row to the index of its name, which it opens if there is none yet. -/
def addRow (name : String) (r : IndexRow) : List Index → List Index
  | [] => [(opened name r).absorb r]
  | i :: rest => if i.name = name then i.absorb r :: rest else i :: addRow name r rest

/-- The indexes that a list of rows describes, in the order of their first rows. A row without a
name belongs to none. -/
def group (rows : List IndexRow) : List Index :=
  rows.foldl (fun found r =>
    match r.name with
    | some name => if name = "" then found else addRow name r found
    | none => found) []

/-- The rows a catalog would list for an index on these columns. -/
def rows (name : Option String) (columns : List String) (type : String) : List IndexRow :=
  let kind := uppered type
  columns.map fun c =>
    { name
      columnName := c
      nonUnique := kind != "UNIQUE"
      indexType := some (if kind = "FULLTEXT" then "FULLTEXT" else "BTREE") }

/-- The index on these columns, grouped as a catalog's rows are. There is none without a name or
without columns. -/
def build? (name : Option String) (columns : List String) (type : String) : Option Index :=
  (group (rows name columns type)).find? fun i => some i.name == name

end Index

end TableDraft
