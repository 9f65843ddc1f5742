import TableDraft.Plan
import TableDraft.Value.Display

namespace TableDraft

namespace Mark

/-- Whether an untyped value is this mark. Numbers and truth values compare by what they count. -/
def isValue : Mark → Value → Bool
  | number n, .int m => n == m
  | number n, .bool b => n == if b then 1 else 0
  | number n, .float x => x.toInt? == some n
  | word s, .text t => s == t
  | _, _ => false

end Mark

/-- A table that is edited, as it was loaded and as it is by now. -/
structure Draft where
  database : String
  table : String
  snapshot : Definition
  working : Definition
  deriving DecidableEq

namespace Draft

def start (database table : String) (d : Definition) : Draft :=
  ⟨database, table, d, d⟩

def plan (d : Draft) : Plan :=
  Plan.compile d.database d.table d.snapshot d.working

def hasChanges (d : Draft) : Bool :=
  d.plan.hasChanges

def discard (d : Draft) : Draft :=
  { d with working := d.snapshot }

def reset (d : Draft) (loaded : Definition) : Draft :=
  { d with snapshot := loaded, working := loaded }

def column? (d : Draft) (id : Value) : Option Column :=
  d.working.columns.find? (·.id.isValue id)

end Draft

end TableDraft
