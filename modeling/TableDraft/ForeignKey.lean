import TableDraft.Fault

namespace TableDraft

structure ForeignKey where
  constraintName : String
  columnName : String
  referencedTable : String
  referencedColumn : String
  deriving DecidableEq

namespace ForeignKey

def checkFields (fields : Fields) : Checked ForeignKey :=
  ForeignKey.mk
    <$> fields.required "constraint_name" checkText
    <*> fields.required "column_name" checkText
    <*> fields.required "referenced_table" checkText
    <*> fields.required "referenced_column" checkText

def check : Value → Checked ForeignKey :=
  checkObject checkFields

def fields (k : ForeignKey) : Fields :=
  [("constraint_name", .text k.constraintName), ("column_name", .text k.columnName),
    ("referenced_table", .text k.referencedTable), ("referenced_column", .text k.referencedColumn)]

end ForeignKey

end TableDraft
