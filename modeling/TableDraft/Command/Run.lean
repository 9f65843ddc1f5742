import TableDraft.Active
import TableDraft.Catalog
import TableDraft.Command.Invocation
import TableDraft.Json.Reader
import TableDraft.Json.Writer
import TableDraft.Rollout

namespace TableDraft.Command

def definitionOf (ids : IdSupply) (text : String) : Checked Definition × IdSupply :=
  match Json.document? text with
  | some v => Definition.check ids v
  | none => (.fault .badJson, ids)

/-- The text of a definition file. -/
def definitionFile (w : Workspace) (path : String) : Except Failure String :=
  let shown := Path.normal path
  match w.place path with
  | .file _ text => .ok (readable text)
  | .directory => .error (.isDirectory shown)
  | .longName => .error (.longName shown)
  | _ => .error (.noDefinition shown)

def loadDefinition (path : String) : Job Definition := do
  let w ← get
  let text ← Job.ofExcept (definitionFile w path)
  let (checked, ids) := definitionOf w.ids text
  set { w with ids }
  Job.ofExcept (checked.orFail .definition)

def definitionText (indent : Option Nat) (d : Definition) : String :=
  Json.write (match indent with
    | some n => .indented n
    | none => .compact) d.value

/-- Prints what went wrong between two pieces of markup. The report on a faulty record is cut after
its first words, and all that would follow it. -/
def printFailure (before : String) (f : Failure) (after : String) : Job Unit :=
  match f with
  | .faulty .. => Job.print (before ++ f.message)
  | _ => Job.print (before ++ f.printed ++ after)

def printError (f : Failure) : Job Unit :=
  printFailure "[red]Error: " f "[/red]"

def printConnectionError (f : Failure) : Job Unit :=
  printFailure "\n[bold red]Error:[/bold red] Connection failed: " f ""

def printBlank : Job Unit :=
  Job.print ""

def severityCell (s : Severity) : String :=
  let style := if s = .high then "bold red" else "yellow"
  "[" ++ style ++ "]" ++ s.word ++ "[/" ++ style ++ "]"

def printPlan (p : Plan) : Job Unit := do
  Job.printRaw p.script
  if !p.warnings.isEmpty then
    printBlank
    Job.printEvent (.table "Lock Risk" ["Severity", "Statement"]
      (p.warnings.map fun w => [severityCell w.severity, w.statement]))

/-- Failures to read a definition file that are not handled. -/
def isFileFailure : Failure → Bool
  | .isDirectory _ => true
  | .longName _ => true
  | _ => false

/-- Compiles the plan of two definition files, or prints why one of them is no good. -/
def planOfFiles (t : Target) : Job (Option Plan) := do
  let compile : Job Plan := do
    let snapshot ← loadDefinition t.snapshot
    let working ← loadDefinition t.working
    pure (Plan.compile t.database t.table snapshot working)
  match ← compile.attempt with
  | .ok plan => pure (some plan)
  | .error f =>
    if isFileFailure f then throw f
    else
      printError f
      pure none

def runPlan (t : Target) : Job Nat := do
  match ← planOfFiles t with
  | none => pure 1
  | some plan =>
    printPlan plan
    pure 0

def runConnect (envPrefix : String) : Job Nat := do
  let previous := (← get).lock?
  Job.printStyled "Connecting to database..." "dim"
  let c ← connect none envPrefix
  printBlank
  if c.success then
    let name := c.profileName.getD ""
    Job.print ("[bold green]v[/bold green] Connected to profile: [bold cyan]" ++ name ++ "[/bold cyan]")
    Job.print ("  Server version: " ++ c.serverVersion.getD "")
    match previous with
    | some p =>
      if p != "" && p != name then
        Job.print ("\n[dim]Switched from[/dim] [bold]" ++ p ++ "[/bold] [dim]to[/dim] [bold cyan]" ++
          name ++ "[/bold cyan]")
    | none => pure ()
    pure 0
  else
    Job.print ("[bold red]x[/bold red] " ++ c.error.getD "")
    pure 1

def configRows (name : String) (c : Config) : List (List String) :=
  let own := match c.profiles.lookup name with
    | some p =>
      ["Provider", p.provider] ::
        if p.description = "" then [] else [["Description", p.description]]
    | none => []
  own ++ [["Lock guard", if c.lockGuard then "on" else "off"]]

def statusRows (name : String) (config : Except Failure Config) : Except Failure (List (List String)) := do
  let rest ← match config with
    | .ok c => .ok (configRows name c)
    | .error (.noConfig _) => .ok [["Warning", "[yellow]db.toml not found[/yellow]"]]
    | .error f => .error f
  pure (["Current profile", "[bold cyan]" ++ name ++ "[/bold cyan]"] ::
    ["Profile source", lockFile] :: rest)

def runStatus : Job Nat := do
  let w ← get
  match w.lock?.filter (· != "") with
  | some name =>
    let rows ← Job.ofExcept (statusRows name w.config)
    Job.printEvent (.table "Connection Status" ["Key", "Value"] rows)
  | none =>
    Job.print "[yellow]No connected profile.[/yellow]"
    Job.print "[dim]Run:[/dim] [cyan]DB_PROFILE=<name> schema-designer connect[/cyan]"
  pure 0

def profileRow (current : Option String) (name : String) (p : Profile) : List String :=
  let isCurrent := current == some name
  [if isCurrent then "[bold green]*[/bold green]" else " ",
    if isCurrent then "[bold cyan]" ++ name ++ "[/bold cyan]" else name, p.provider, p.description]

def runProfiles : Job Nat := do
  let w ← get
  match w.config with
  | .error (.noConfig directory) =>
    printError (.noConfig directory)
    pure 1
  | .error f => throw f
  | .ok config =>
    let current := w.lock?
    Job.printEvent (.table "Database Profiles" ["", "Profile", "Provider", "Description"]
      (config.profiles.map fun p => profileRow current p.1 p.2))
    if (current.getD "") != "" then Job.print "\n[bold green]*[/bold green] = current profile"
    pure 0

/-- Whether a length is shown: neither none, nor zero, nor empty. -/
def shownLength (length : Option Mark) : String :=
  match length with
  | some m => if m = .number 0 ∨ m = .word "" then "" else "(" ++ m.text ++ ")"
  | none => ""

def columnRow (c : Column) : List String :=
  [c.name, c.dataType ++ shownLength c.length, if c.nullable then "YES" else "NO",
    if c.primaryKey then "PRI" else if c.unique then "UNI" else "", c.defaultValue.getD ""]

/-- Loads a definition over a client that is closed in any case. -/
def loadFromServer (database table : String) : Job Definition := do
  let w ← get
  let work (s : Server) : OnServer (Definition × IdSupply) :=
    finallyDo (Catalog.load s w.ids database table) Server.close
  let (d, ids) ← Job.onServer work
  modify fun w => { w with ids }
  pure d

def printDefinition (database table : String) (output : Option String) (d : Definition) :
    Job Unit := do
  Job.printEvent (.table (database ++ "." ++ table) ["Column", "Type", "Null", "Key", "Default"]
    (d.columns.map columnRow))
  Job.print ("  Indexes: " ++ toString d.indexes.length ++ "  Foreign keys: " ++
    toString d.foreignKeys.length ++ "  Triggers: " ++ toString d.triggers.length)
  let payload := definitionText (some 2) d
  match output.filter (· != "") with
  | some path =>
    writeFile path (payload ++ "\n")
    Job.print ("\n[bold green]v[/bold green] Definition written to [cyan]" ++ path ++ "[/cyan]")
    Job.print ("[dim]Copy it, edit the copy, then run[/dim] " ++
      "[cyan]schema-designer plan --snapshot <file> --working <copy>[/cyan]")
  | none => Job.printRaw payload

/-- Failures to find a profile or its configuration are printed; others are not handled. -/
def isProfileFailure : Failure → Bool
  | .noProfile _ => true
  | .unknownProfile .. => true
  | .noConfig _ => true
  | _ => false

/-- Failures to find a table, or a cell that its rows should have. -/
def isTableFailure : Failure → Bool
  | .noTable .. => true
  | .missingKey _ => true
  | _ => false

def runInspect (envPrefix database table : String) (output : Option String) : Job Nat := do
  match ← (openClient none envPrefix none).attempt with
  | .error f =>
    if isProfileFailure f then
      printError f
      pure 1
    else throw f
  | .ok _ =>
    match ← (loadFromServer database table).attempt with
    | .error f =>
      if isTableFailure f then printError f else printConnectionError f
      pure 1
    | .ok d =>
      printDefinition database table output d
      pure 0

def printResult (t : Target) (force : Bool) (r : PushResult) : Job Nat := do
  printBlank
  if r.success then
    Job.print ("[bold green]v[/bold green] Executed " ++ toString r.executed ++
      " statement(s) on [cyan]" ++ t.database ++ "." ++ t.table ++ "[/cyan]")
    Job.print ("[dim]Run[/dim] [cyan]schema-designer inspect[/cyan] " ++
      "[dim]again before the next edit.[/dim]")
    pure 0
  else
    Job.print ("[bold red]x[/bold red] " ++ r.error.getD "None")
    match r.failedStatement.filter (· != "") with
    | some statement =>
      Job.print ("  Executed " ++ toString r.executed ++ " of " ++ toString r.total ++
        " statement(s) before the failure; they were not rolled back.")
      Job.printRaw ("  Failed statement: " ++ statement)
    | none =>
      if !force then Job.print "[dim]Add[/dim] [cyan]--force[/cyan] [dim]to push anyway.[/dim]"
    pure 1

/-- Executes a plan with the client of a profile, which is closed in any case. -/
def executePlan (plan : Plan) (lockGuard force : Bool) : Job PushResult :=
  Job.onServer fun s => finallyDo (Rollout.pushPlan s plan ⟨false, true, lockGuard, force⟩) Server.close

def pushConfirmed (envPrefix profile : String) (t : Target) (force : Bool) (plan : Plan) : Job Nat := do
  match (← get).config with
  | .error (.noConfig directory) =>
    printError (.noConfig directory)
    pure 1
  | .error f => throw f
  | .ok config =>
    match ← (openClient (some profile) envPrefix none).attempt with
    | .error f =>
      printConnectionError f
      pure 1
    | .ok _ =>
      printBlank
      Job.print "[bold]Pushing changes...[/bold]"
      let r ← executePlan plan config.lockGuard force
      printResult t force r

def runPush (envPrefix : String) (t : Target) (confirm force : Bool) : Job Nat := do
  match (← get).activeName envPrefix with
  | .error _ =>
    Job.print "[yellow]No profile configured.[/yellow]"
    Job.print ("[dim]Run[/dim] [cyan]DB_PROFILE=<name> schema-designer push " ++
      "--snapshot <file> --working <file>[/cyan]")
    pure 1
  | .ok profile =>
    match ← planOfFiles t with
    | none => pure 1
    | some plan =>
      if !plan.hasChanges then
        Job.printRaw plan.script
        pure 0
      else
        Job.print ("Push plan for profile: [bold cyan]" ++ profile ++ "[/bold cyan]")
        printBlank
        printPlan plan
        if !confirm then
          printBlank
          Job.print ("[dim]To execute these statements, add[/dim] [cyan]--confirm[/cyan] " ++
            "[dim]flag.[/dim]")
          pure 0
        else pushConfirmed envPrefix profile t force plan

/-- Runs a command to its exit code, or to a failure that it does not handle. -/
def run (i : Invocation) : Job Nat :=
  match i.action with
  | .connect => runConnect i.envPrefix
  | .status => runStatus
  | .profiles => runProfiles
  | .inspect database table output => runInspect i.envPrefix database table output
  | .plan t => runPlan t
  | .push t confirm force => runPush i.envPrefix t confirm force

end TableDraft.Command
