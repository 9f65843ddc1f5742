import TableDraft.Failure

namespace TableDraft

/-- The catalog tables that describe the structure of a table. -/
inductive CatalogTable where
  | columns
  | statistics
  | keyColumnUsage
  | triggers
  deriving DecidableEq

def CatalogTable.name : CatalogTable → String
  | columns => "COLUMNS"
  | statistics => "STATISTICS"
  | keyColumnUsage => "KEY_COLUMN_USAGE"
  | triggers => "TRIGGERS"

inductive Answer where
  | done
  | failed (message : String)
  | unsupported
  deriving DecidableEq

structure Query where
  source : CatalogTable
  database : String
  table : String
  deriving DecidableEq

/-- What has passed between clients and the server. -/
structure Traffic where
  urls : List String
  queries : List Query
  executed : List String
  closed : Nat
  deriving DecidableEq

def Traffic.none : Traffic :=
  ⟨[], [], [], 0⟩

/-- All that a server will answer: rows or an error for each catalog table, one answer for each
statement in the order they come, and its version. -/
structure Server where
  rows : CatalogTable → Except String (List Value)
  answers : List Answer
  version : Except String String

/-- Work with a server, which may fail but keeps its traffic. -/
abbrev OnServer := ExceptT Failure (StateM Traffic)

def OnServer.ofExcept (e : Except Failure α) : OnServer α :=
  match e with
  | .ok a => pure a
  | .error f => throw f

namespace Server

def connect (url : String) : OnServer Unit :=
  modify fun t => { t with urls := t.urls ++ [url] }

def close : OnServer Unit :=
  modify fun t => { t with closed := t.closed + 1 }

def fetch (s : Server) (source : CatalogTable) (database table : String) :
    OnServer (List Value) := do
  modify fun t => { t with queries := t.queries ++ [⟨source, database, table⟩] }
  match s.rows source with
  | .ok rows => pure rows
  | .error message => throw (.server message)

/-- Sends a statement. Answers beyond the listed ones are successes. -/
def execute (s : Server) (statement : String) : OnServer Answer := do
  let n := (← get).executed.length
  modify fun t => { t with executed := t.executed ++ [statement] }
  pure (s.answers.getD n .done)

theorem run_execute (s : Server) (statement : String) (t : Traffic) :
    s.execute statement t =
      (.ok (s.answers.getD t.executed.length .done),
        { t with executed := t.executed ++ [statement] }) := rfl

def readVersion (s : Server) : OnServer String :=
  match s.version with
  | .ok v => pure v
  | .error message => throw (.server message)

end Server

/-- Runs `work` and then `after`, also if `work` fails. -/
def finallyDo (work : OnServer α) (after : OnServer Unit) : OnServer α := fun t =>
  match work t with
  | (.ok a, t') => (do after; pure a : OnServer α) t'
  | (.error e, t') => (do after; throw e : OnServer α) t'

end TableDraft
