import TableDraft.Definition
import TableDraft.Sql.ColumnType

namespace TableDraft
open TableDraft.Sql TableDraft.Text

inductive Statement where
  | addColumn (table : String) (column : Column)
  | changeColumn (table : String) (before after : Column)
  | dropColumn (table : String) (column : Column)
  | addUnique (table : String) (column : Column)
  | dropUnique (table : String) (before : Column)
  | createIndex (table : String) (index : Index)
  | dropIndex (table : String) (index : Index)
  | addForeignKey (table : String) (key : ForeignKey)
  | dropForeignKey (table : String) (key : ForeignKey)
  | createTrigger (table : String) (trigger : Trigger)
  | dropTrigger (trigger : Trigger)
  deriving DecidableEq

/-- The index that backs the uniqueness of a column. -/
def uniqueIndexName (column : String) : String :=
  "uq_" ++ column

/-- The word before `INDEX`, with a space after it if there is one. -/
def Index.kindWord (i : Index) : String :=
  if i.unique then "UNIQUE " else if uppered i.type = "FULLTEXT" then "FULLTEXT " else ""

namespace Statement

/-- An index without columns cannot be created. -/
def createIndex? (table : String) (i : Index) : Option Statement :=
  if i.columns.isEmpty then none else some (createIndex table i)

/-- The statement before it is trimmed and terminated. -/
def draftText : Statement → String
  | addColumn t c =>
    "ALTER TABLE " ++ ident t ++ " ADD COLUMN " ++ ident c.name ++ " " ++ columnDefinition c
  | changeColumn t b c =>
    "ALTER TABLE " ++ ident t ++ " CHANGE COLUMN " ++ ident b.sourceName ++ " " ++ ident c.name ++
      " " ++ columnDefinition c
  | dropColumn t c => "ALTER TABLE " ++ ident t ++ " DROP COLUMN " ++ ident c.name
  | addUnique t c =>
    "CREATE UNIQUE INDEX " ++ ident (uniqueIndexName c.name) ++ " ON " ++ ident t ++ " (" ++
      ident c.name ++ ")"
  | dropUnique t b => "DROP INDEX " ++ ident (uniqueIndexName b.sourceName) ++ " ON " ++ ident t
  | createIndex t i =>
    "CREATE " ++ i.kindWord ++ "INDEX " ++ ident i.name ++ " ON " ++ ident t ++ " (" ++
      idents i.columns ++ ")"
  | dropIndex t i => "DROP INDEX " ++ ident i.name ++ " ON " ++ ident t
  | addForeignKey t k =>
    "ALTER TABLE " ++ ident t ++ " ADD CONSTRAINT " ++ ident k.constraintName ++ " FOREIGN KEY (" ++
      ident k.columnName ++ ") REFERENCES " ++ ident k.referencedTable ++ " (" ++
      ident k.referencedColumn ++ ")"
  | dropForeignKey t k => "ALTER TABLE " ++ ident t ++ " DROP FOREIGN KEY " ++ ident k.constraintName
  | createTrigger t g =>
    "CREATE TRIGGER " ++ ident g.name ++ " " ++ uppered g.timing ++ " " ++ uppered g.event ++
      " ON " ++ ident t ++ " FOR EACH ROW\nBEGIN\n" ++ trimmed g.body ++ "\nEND"
  | dropTrigger g => "DROP TRIGGER IF EXISTS " ++ ident g.name

def text (s : Statement) : String :=
  terminated s.draftText

end Statement

end TableDraft
