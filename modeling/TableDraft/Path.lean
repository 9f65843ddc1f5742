namespace TableDraft.Path

def parts (path : String) : List String :=
  ((path.toList.splitOnP (· == '/')).map String.ofList).filter fun p => p != "" && p != "."

/-- Two slashes at the start are kept as two, any other number as one. -/
def root (path : String) : String :=
  match path.toList with
  | '/' :: '/' :: '/' :: _ => "/"
  | '/' :: '/' :: _ => "//"
  | '/' :: _ => "/"
  | _ => ""

/-- A path without empty parts and single dots. -/
def normal (path : String) : String :=
  let s := root path ++ String.intercalate "/" (parts path)
  if s = "" then "." else s

/-- What comes before the last part. -/
def parent (path : String) : String :=
  root path ++ String.intercalate "/" (parts path).dropLast

/-- A name of a file or directory has at most so many bytes. -/
def nameLimit : Nat := 255

/-- A whole path has fewer bytes than this. -/
def lengthLimit : Nat := 4096

/-- The parts of a way, from the working directory on or, with a slash for the first part, from the
top. -/
abbrev Spot := List String

namespace Spot

def top : Spot := ["/"]

/-- Where a path sets out from. -/
def start (path : String) : Spot :=
  if root path = "" then [] else top

/-- The directory above a spot; above the top there is only the top. -/
def above (s : Spot) : Spot :=
  if s = top then top
  else match s.getLast? with
    | some last => if last = ".." then s ++ [".."] else s.dropLast
    | none => [".."]

def step (s : Spot) (part : String) : Spot :=
  if part = ".." then above s else s ++ [part]

def name : Spot → String
  | "/" :: r => "/" ++ String.intercalate "/" r
  | r => String.intercalate "/" r

/-- Whether a spot is the working directory or above it, or the top. -/
def isAncestor (s : Spot) : Bool :=
  s = top || s.all (· == "..")

/-- Whether the file or directory of this name is in the directory at a spot, at any depth. -/
def holds (s : Spot) (file : String) : Bool :=
  (s.name.toList ++ ['/']).isPrefixOf file.toList

end Spot

/-- Whether a file of this name is in the working directory, at any depth. -/
def isBelow (name : String) : Bool :=
  root name = "" && (parts name).head? != some ".."

end TableDraft.Path
