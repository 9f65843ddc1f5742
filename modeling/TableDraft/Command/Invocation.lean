import TableDraft.Command.Options

namespace TableDraft.Command

/-- A table, and the files that hold its structure as loaded and as edited. -/
structure Target where
  database : String
  table : String
  snapshot : String
  working : String
  deriving DecidableEq

inductive Action where
  | connect
  | status
  | profiles
  | inspect (database table : String) (output : Option String)
  | plan (target : Target)
  | push (target : Target) (confirm force : Bool)
  deriving DecidableEq

structure Invocation where
  envPrefix : String
  action : Action
  deriving DecidableEq

/-- The definition files that an action reads. -/
def Action.inputs : Action → List String
  | .plan t => [t.snapshot, t.working]
  | .push t _ _ => [t.snapshot, t.working]
  | _ => []

/-- The file that an action writes a definition to. -/
def Action.output? : Action → Option String
  | .inspect _ _ output => output.filter (· != "")
  | _ => none

/-- What a command line asks for. -/
inductive Request where
  | run (i : Invocation)
  | help
  | invalid
  deriving DecidableEq

def helpOption : OptionSpec :=
  ⟨"help", some 'h', false⟩

def valueOption (long : String) : OptionSpec :=
  ⟨long, none, true⟩

def flagOption (long : String) : OptionSpec :=
  ⟨long, none, false⟩

def globalOptions : List OptionSpec :=
  [helpOption, valueOption "env-prefix", ⟨"verbose", some 'v', false⟩]

def targetOptions : List OptionSpec :=
  [helpOption, valueOption "database", valueOption "table", valueOption "snapshot",
    valueOption "working"]

def commandOptions : List (String × List OptionSpec) :=
  [("connect", [helpOption]), ("status", [helpOption]), ("profiles", [helpOption]),
    ("inspect", [helpOption, valueOption "database", valueOption "table", valueOption "output"]),
    ("plan", targetOptions),
    ("push", targetOptions ++ [flagOption "confirm", flagOption "force"])]

def target? (f : Found) : Option Target := do
  let database ← f.value? "database"
  let table ← f.value? "table"
  let snapshot ← f.value? "snapshot"
  let working ← f.value? "working"
  pure ⟨database, table, snapshot, working⟩

/-- The action with the options found, if none that it needs is missing. -/
def action? (command : String) (f : Found) : Option Action :=
  match command with
  | "connect" => some .connect
  | "status" => some .status
  | "profiles" => some .profiles
  | "inspect" => do
    let database ← f.value? "database"
    let table ← f.value? "table"
    pure (.inspect database table (f.value? "output"))
  | "plan" => (target? f).map .plan
  | "push" => (target? f).map fun t => .push t (f.has "confirm") (f.has "force")
  | _ => none

def readCommand (envPrefix : String) (extras : Bool) (command : String) (args : List String) :
    Request :=
  match commandOptions.lookup command with
  | none => .invalid
  | some specs =>
    match readArguments specs false args with
    | .help => .help
    | .invalid => .invalid
    | .stopped found _ =>
      match action? command found with
      | some a => if extras || found.extras then .invalid else .run ⟨envPrefix, a⟩
      | none => .invalid

/-- Global options come before the command, and its own after it. -/
def readRequest (args : List String) : Request :=
  match readArguments globalOptions true args with
  | .help => .help
  | .invalid => .invalid
  | .stopped _ [] => .invalid
  | .stopped found (command :: rest) =>
    readCommand ((found.value? "env-prefix").getD "") found.extras command rest

end TableDraft.Command
