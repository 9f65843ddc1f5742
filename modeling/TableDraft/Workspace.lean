import TableDraft.Column
import TableDraft.Path
import TableDraft.Server
import TableDraft.Text.Lines

namespace TableDraft
open TableDraft.Text

/-- One thing printed: a text, possibly in a style or with its markup left alone, or a table. -/
inductive Event where
  | text (s : String) (style : Option String) (raw : Bool)
  | table (title : String) (columns : List String) (rows : List (List String))
  deriving DecidableEq

/-- Everything that a command can see or change. -/
structure Workspace where
  /-- The directory as it is written in messages. -/
  directory : String
  files : List (String × String)
  /-- Directories besides those that hold a listed file. -/
  directories : List String
  environment : List (String × String)
  server : Server
  traffic : Traffic
  ids : IdSupply
  printed : List Event

/-- Work done in a workspace. What was done before a failure stays done. -/
abbrev Job := ExceptT Failure (StateM Workspace)

namespace Job

def onServer (work : Server → OnServer α) : Job α := fun w =>
  let (result, traffic) := work w.server w.traffic
  (result, { w with traffic })

def ofExcept (e : Except Failure α) : Job α :=
  match e with
  | .ok a => pure a
  | .error f => throw f

/-- The outcome of a task, failed or not. -/
def attempt (work : Job α) : Job (Except Failure α) := fun w =>
  let (result, w') := work w
  (.ok result, w')

def printEvent (e : Event) : Job Unit :=
  modify fun w => { w with printed := w.printed ++ [e] }

def print (s : String) : Job Unit :=
  printEvent (.text s none false)

def printRaw (s : String) : Job Unit :=
  printEvent (.text s none true)

def printStyled (s style : String) : Job Unit :=
  printEvent (.text s (some style) false)

end Job

/-- What a path leads to. At a vacant place a file may be made. -/
inductive Place where
  | directory
  | file (name text : String)
  | vacant (name : String)
  /-- One of the directories on the way is missing. -/
  | unreachable
  /-- A file is on the way. -/
  | blocked
  | longName
  /-- No name can have the character NUL. -/
  | unnameable
  deriving DecidableEq

/-- A file that is always empty, whatever is written to it. -/
def nullFile : String := "/dev/null"

/-- Directories that are there for every workspace. -/
def commonDirectories : List String := ["/dev", "/tmp"]

namespace Workspace

def file? (w : Workspace) (name : String) : Option String :=
  if name = nullFile then some "" else w.files.lookup name

/-- Ancestors are there, and so is all that is listed or holds what is listed. -/
def hasDirectory (w : Workspace) (s : Path.Spot) : Bool :=
  s.isAncestor || (commonDirectories ++ w.directories).contains s.name ||
    (w.files.map (·.1) ++ w.directories).any s.holds

/-- Goes from a directory along the parts of a path. Each part is looked up before the next. -/
def walk (w : Workspace) : Path.Spot → List String → Place
  | _, [] => .directory
  | s, part :: rest =>
    if Path.nameLimit < part.utf8ByteSize then .longName
    else
      let next := s.step part
      if w.hasDirectory next then walk w next rest
      else match w.file? next.name with
        | some text => if rest.isEmpty then .file next.name text else .blocked
        | none => if rest.isEmpty then .vacant next.name else .unreachable

/-- What a path leads to. The working directory is not looked up by its own name: a path that comes to
it from the top, or that leaves it and comes back, is taken to lead elsewhere. -/
def place (w : Workspace) (path : String) : Place :=
  if path.toList.contains '\x00' then .unnameable
  else if Path.lengthLimit ≤ (Path.normal path).utf8ByteSize then .longName
  else w.walk (Path.Spot.start path) (Path.parts path)

def setFile (w : Workspace) (name text : String) : Workspace :=
  { w with files :=
      if w.files.any (·.1 == name) then w.files.map fun f => if f.1 == name then (name, text) else f
      else w.files ++ [(name, text)] }

def removeFile (w : Workspace) (name : String) : Workspace :=
  { w with files := w.files.filter (·.1 != name) }

/-- The files that are new or changed since an earlier state. -/
def filesSince (w before : Workspace) : List (String × String) :=
  w.files.filter fun f => before.files.lookup f.1 != some f.2

def setEnvironment (w : Workspace) (name : String) (value : Option String) : Workspace :=
  let rest := w.environment.filter (·.1 != name)
  { w with environment := match value with
      | some v => rest ++ [(name, v)]
      | none => rest }

end Workspace

/-- The text of a file as it is read, with its line breaks unified. -/
def readable (text : String) : String :=
  String.ofList (unifyBreaks text.toList)

/-- Writes a file, whose directory has to be there. -/
def writeFile (path text : String) : Job Unit := do
  let w ← get
  let shown := Path.normal path
  match w.place path with
  | .directory => throw (.isDirectory shown)
  | .unreachable => throw (.noDirectory shown)
  | .blocked => throw (.notDirectory shown)
  | .longName => throw (.longName shown)
  | .unnameable => throw .nulInPath
  | .file name _ => set (w.setFile name text)
  | .vacant name => set (w.setFile name text)

end TableDraft
