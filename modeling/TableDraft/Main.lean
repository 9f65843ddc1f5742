import TableDraft.Command.Console
import TableDraft.Command.Run

namespace TableDraft.Command

/-- No database driver is linked in, so that every server is out of reach. -/
def unreachable : String :=
  "no database driver available"

def offlineServer : Server :=
  { rows := fun _ => .error unreachable
    answers := []
    version := .error unreachable }

/-- The hexadecimal number made of some bytes. -/
def seedOf (bytes : List UInt8) : Nat :=
  bytes.foldl (fun n b => n * 256 + b.toNat) 0

def idsFrom (seed : Nat) : IdSupply :=
  ⟨fun n => String.ofList (Text.lowHex 32 (seed + n)), 0⟩

def readFile? (path : String) : IO (Option (String × String)) := do
  try
    return some (Path.normal path, ← IO.FS.readFile path)
  catch _ =>
    return none

def variableOf (name : String) : IO (List (String × String)) := do
  match ← IO.getEnv name with
  | some value => return [(name, value)]
  | none => return []

/-- The files, variables and random ids that a command may need, read before it runs. -/
def workspaceFor (i : Invocation) : IO Workspace := do
  let files ← (lockFile :: configFile :: i.action.inputs).filterMapM readFile?
  let random ← IO.getRandomBytes 16
  return {
    directory := (← IO.currentDir).toString
    files
    directories := (i.action.output?.map Path.parent).toList
    environment := ← variableOf (Workspace.profileSetting i.envPrefix)
    server := offlineServer
    traffic := Traffic.none
    ids := idsFrom (seedOf random.toList)
    printed := [] }

def writeChanges (before after : Workspace) : IO Unit :=
  (after.filesSince before).forM fun f => IO.FS.writeFile f.1 f.2

def perform (i : Invocation) : IO UInt32 := do
  let before ← workspaceFor i
  let (outcome, after) := run i before
  after.printed.forM fun e => IO.println (eventText e)
  writeChanges before after
  match outcome with
  | .ok code => return UInt32.ofNat code
  | .error f =>
    IO.eprintln f.message
    return 1

end TableDraft.Command

def main (args : List String) : IO UInt32 := do
  match TableDraft.Command.readRequest args with
  | .run i => TableDraft.Command.perform i
  | .help =>
    IO.println TableDraft.Command.usage
    return 0
  | .invalid =>
    IO.eprintln TableDraft.Command.usage
    return 2
