import TableDraft.Plan
import TableDraft.Script
import TableDraft.Server

namespace TableDraft

structure PushResult where
  success : Bool
  dryRun : Bool
  total : Int
  executed : Int
  failedStatement : Option String
  error : Option String
  deriving DecidableEq

namespace PushResult

def check : Value → Checked PushResult :=
  checkObject fun fields =>
    PushResult.mk
      <$> fields.orElse "success" false checkFlag
      <*> fields.orElse "dry_run" false checkFlag
      <*> fields.orElse "statements_total" 0 checkInt
      <*> fields.orElse "statements_executed" 0 checkInt
      <*> fields.orElse "failed_statement" none (checkOptional checkText)
      <*> fields.orElse "error" none (checkOptional checkText)

def fields (r : PushResult) : Fields :=
  [("success", .bool r.success), ("dry_run", .bool r.dryRun), ("statements_total", .int r.total),
    ("statements_executed", .int r.executed), ("failed_statement", Value.ofText? r.failedStatement),
    ("error", Value.ofText? r.error)]

end PushResult

/-- How the sending of several statements ended. -/
inductive Ending where
  | complete
  | stopped (statement message : String)
  | unsupported
  deriving DecidableEq

namespace Rollout

/-- What the caller allows: a push is a dry run unless told otherwise, and has to be confirmed. -/
structure Permission where
  dryRun : Bool
  confirm : Bool
  lockGuard : Bool
  force : Bool
  deriving DecidableEq

def Permission.standard : Permission :=
  ⟨true, false, false, false⟩

/-- Sends statements without their terminators up to the first that does not succeed, and counts
those that do. -/
def send (s : Server) : (sent : Nat) → List String → OnServer (Nat × Ending)
  | sent, [] => pure (sent, .complete)
  | sent, statement :: r => do
    match ← s.execute (Sql.unterminated statement) with
    | .done => send s (sent + 1) r
    | .failed message => pure (sent, .stopped statement message)
    | .unsupported => pure (sent, .unsupported)

def unsent (statements : List String) : PushResult :=
  ⟨false, false, statements.length, 0, none, none⟩

def push (s : Server) (statements : List String) (p : Permission) : OnServer PushResult := do
  let result := unsent statements
  if statements.isEmpty then pure { result with success := true }
  else if p.dryRun then pure { result with success := true, dryRun := true }
  else if !p.confirm then pure { result with error := some "Push requires confirm=True" }
  else
    let (sent, ending) ← send s 0 statements
    match ending with
    | .complete => pure { result with success := true, executed := sent }
    | .stopped statement message =>
      pure { result with
        executed := sent
        failedStatement := some statement
        error := some ("Failed to push changes: " ++ message) }
    | .unsupported => throw .statementsUnsupported

/-- The first few statements that the guard objects to. -/
def guardMessage (warnings : List LockWarning) : String :=
  "High lock risk statements detected:\n" ++ String.intercalate "\n"
    ((warnings.take 6).map fun w => "- " ++ w.message ++ " (" ++ w.statement ++ ")")

/-- Pushes a plan. The guard refuses statements of high risk unless forced. -/
def pushPlan (s : Server) (plan : Plan) (p : Permission) : OnServer PushResult :=
  if p.lockGuard && !p.force && !p.dryRun && !plan.highRisk.isEmpty then
    pure { unsent plan.statements with error := some (guardMessage plan.highRisk) }
  else push s plan.statements p

def pushScript (s : Server) (script : String) (p : Permission) : OnServer PushResult :=
  push s (Script.split script) p

end Rollout

end TableDraft
