import TableDraft.Fault
import TableDraft.Text.Blank
import TableDraft.Text.Case
import TableDraft.Text.Letter
import TableDraft.Text.Search

namespace TableDraft
open TableDraft.Text

inductive Severity where
  | low
  | medium
  | high
  deriving DecidableEq

def Severity.word : Severity → String
  | low => "low"
  | medium => "medium"
  | high => "high"

def Severity.check : Value → Checked Severity
  | .text "low" => .good low
  | .text "medium" => .good medium
  | .text "high" => .good high
  | _ => .fault .notListed

structure LockWarning where
  severity : Severity
  message : String
  statement : String
  deriving DecidableEq

namespace LockWarning

def check : Value → Checked LockWarning :=
  checkObject fun fields =>
    LockWarning.mk
      <$> fields.required "severity" Severity.check
      <*> fields.required "message" checkText
      <*> fields.required "statement" checkText

def fields (w : LockWarning) : Fields :=
  [("severity", .text w.severity.word), ("message", .text w.message), ("statement", .text w.statement)]

end LockWarning

namespace LockRisk

/-- A statement in capitals, with one space in place of each run of blanks. -/
def normalForm (statement : String) : List Char :=
  upper ([' '].intercalate (words statement.toList))

def changesColumn (s : List Char) : Bool :=
  occurs " CHANGE COLUMN ".toList s || occurs " MODIFY COLUMN ".toList s ||
    occurs " DROP COLUMN ".toList s

def startsWithWord (word s : List Char) : Bool :=
  word.isPrefixOf s && atWordEnd (s.drop word.length)

def changesIndex (s : List Char) : Bool :=
  startsWithWord "CREATE INDEX".toList s || startsWithWord "CREATE UNIQUE INDEX".toList s ||
    startsWithWord "CREATE FULLTEXT INDEX".toList s || startsWithWord "DROP INDEX".toList s

/-- The risk that a statement holds a lock on a busy table, judged by its words alone. -/
def assess (statement : String) : Option LockWarning :=
  let s := normalForm statement
  if "ALTER TABLE".toList.isPrefixOf s then
    if changesColumn s then
      some ⟨.high,
        "ALTER TABLE column change may hold a metadata lock and block concurrent writes.",
        statement⟩
    else
      some ⟨.medium, "ALTER TABLE can create metadata lock waits during execution.", statement⟩
  else if changesIndex s then
    some ⟨.medium, "Index operations can increase lock waits during peak traffic.", statement⟩
  else none

def assessAll (statements : List String) : List LockWarning :=
  statements.filterMap assess

end LockRisk

end TableDraft
