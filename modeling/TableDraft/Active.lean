import TableDraft.Client
import TableDraft.Profile
import TableDraft.Text.Blank
import TableDraft.Workspace

namespace TableDraft
open TableDraft.Text

/-- The file that holds the name of the profile to which the last connection was made. -/
def lockFile : String := ".db-profile"

def configFile : String := "db.toml"

namespace Workspace

def lock? (w : Workspace) : Option String :=
  (w.file? lockFile).map fun text => trimmed (readable text)

def config (w : Workspace) : Except Failure Config :=
  Config.read w.directory (w.file? configFile)

def profileSetting (envPrefix : String) : String :=
  envPrefix ++ "DB_PROFILE"

/-- The environment goes before the lock; of neither an empty name counts. -/
def activeName (w : Workspace) (envPrefix : String) : Except Failure String :=
  match w.environment.lookup (profileSetting envPrefix) with
  | some name => if name = "" then fromLock else .ok name
  | none => fromLock
where
  fromLock : Except Failure String :=
    match w.lock? with
    | some name => if name = "" then .error (.noProfile (profileSetting envPrefix)) else .ok name
    | none => .error (.noProfile (profileSetting envPrefix))

def profileNamed (w : Workspace) (name : String) : Except Failure Profile := do
  let config ← w.config
  match config.profiles.lookup name with
  | some p => pure p
  | none => .error (.unknownProfile name config.names)

def activeProfile (w : Workspace) (envPrefix : String) : Except Failure (String × Profile) := do
  let name ← w.activeName envPrefix
  let profile ← w.profileNamed name
  pure (name, profile)

end Workspace

structure Connection where
  success : Bool
  profileName : Option String
  serverVersion : Option String
  error : Option String
  deriving DecidableEq

namespace Connection

def check : Value → Checked Connection :=
  checkObject fun fields =>
    Connection.mk
      <$> fields.required "success" checkFlag
      <*> fields.orElse "profile_name" none (checkOptional checkText)
      <*> fields.orElse "server_version" none (checkOptional checkText)
      <*> fields.orElse "error" none (checkOptional checkText)

def fields (c : Connection) : Fields :=
  [("success", .bool c.success), ("profile_name", Value.ofText? c.profileName),
    ("server_version", Value.ofText? c.serverVersion), ("error", Value.ofText? c.error)]

def refused (profileName : Option String) (error : String) : Connection :=
  ⟨false, profileName, none, some error⟩

end Connection

/-- Asks a server for its version over a client that is closed in any case. -/
def probe (url : String) (s : Server) : OnServer String := do
  Server.connect url
  finallyDo s.readVersion Server.close

/-- Connects to the server of a profile. Only success changes the lock. -/
def connectTo (name : String) : Job Connection := do
  match (← get).config with
  | .error (.noConfig directory) => pure (.refused none (Failure.noConfig directory).message)
  | .error f => throw f
  | .ok config =>
    match config.profiles.lookup name with
    | none =>
      pure (.refused (some name) ("Profile '" ++ name ++ "' not found. Available: " ++
        String.intercalate ", " config.names))
    | some profile =>
      match ← (Job.onServer (probe profile.resolvedUrl)).attempt with
      | .error f => pure (.refused (some name) ("Failed to connect to database: " ++ f.message))
      | .ok version =>
        modify fun w => w.setFile lockFile name
        pure ⟨true, some name, some version, none⟩

/-- Connects to the server of the chosen profile, or of the active one. -/
def connect (chosen : Option String) (envPrefix : String) : Job Connection := do
  match chosen with
  | some name => connectTo name
  | none =>
    match (← get).activeName envPrefix with
    | .ok name => connectTo name
    | .error f => pure (.refused none f.message)

/-- The URL of the server to work with: the one given, or that of the chosen or active profile. -/
def clientUrl (chosen : Option String) (envPrefix : String) (url : Option String) : Job String := do
  let w ← get
  match url, chosen with
  | some u, _ => pure u
  | none, some name => Profile.resolvedUrl <$> Job.ofExcept (w.profileNamed name)
  | none, none => (fun p => p.2.resolvedUrl) <$> Job.ofExcept (w.activeProfile envPrefix)

/-- Opens a client, which the caller closes. -/
def openClient (chosen : Option String) (envPrefix : String) (url : Option String) : Job String := do
  let u ← clientUrl chosen envPrefix url
  Job.onServer fun _ => Server.connect u
  pure u

end TableDraft
