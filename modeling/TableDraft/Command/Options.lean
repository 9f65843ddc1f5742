import TableDraft.Text.Letter

namespace TableDraft.Command
open TableDraft.Text

structure OptionSpec where
  long : String
  short : Option Char
  valued : Bool

/-- What one argument holds besides the name of an option: nothing, a value after an equals sign, or
letters after a short name, between which an equals sign makes no difference. -/
inductive Tail where
  | nothing
  | assigned (value : List Char)
  | joined (letters : List Char)

/-- What an argument is taken for. -/
inductive Kind where
  | plain
  | mark
  | option (spec : OptionSpec) (tail : Tail)
  | unknown
  | ambiguous

structure Argument where
  text : String
  kind : Kind

namespace OptionSpec

def longName (o : OptionSpec) : List Char :=
  "--".toList ++ o.long.toList

def isShortFor (o : OptionSpec) (c : Char) : Bool :=
  o.short == some c

end OptionSpec

/-- Splits at the first equals sign, if there is one. -/
def splitEquals (s : List Char) : List Char × Option (List Char) :=
  match s.dropWhile (· != '=') with
  | [] => (s, none)
  | _ :: v => (s.takeWhile (· != '='), some v)

def withoutFinalBreak (s : List Char) : List Char :=
  if s.getLast? = some '\n' then s.dropLast else s

/-- A minus sign and a number, after which the line may end. -/
def isNegativeNumber (s : List Char) : Bool :=
  match withoutFinalBreak s with
  | '-' :: r =>
    match r.dropWhile isDigit with
    | [] => !r.isEmpty
    | '.' :: t => !t.isEmpty && t.all isDigit
    | _ => false
  | _ => false

def named? (specs : List OptionSpec) (s : List Char) : Option OptionSpec :=
  match specs.find? (·.longName = s) with
  | some o => some o
  | none => match s with
    | ['-', c] => specs.find? (·.isShortFor c)
    | _ => none

/-- The options that an argument which is no exact name may mean. -/
def candidates (specs : List OptionSpec) (s : List Char) : List Kind :=
  match s with
  | '-' :: '-' :: _ =>
    let (name, value) := splitEquals s
    (specs.filter fun o => name.isPrefixOf o.longName).map fun o =>
      .option o (match value with
        | some v => .assigned v
        | none => .nothing)
  | '-' :: c :: letters => (specs.filter (·.isShortFor c)).map fun o => .option o (.joined letters)
  | _ => []

/-- What stands after the equals sign behind the name of an option. -/
def tailOf (name value : List Char) : Tail :=
  match name, value with
  | ['-', _], _ :: _ => .joined value
  | _, _ => .assigned value

def guess (specs : List OptionSpec) (s : List Char) : Kind :=
  match candidates specs s with
  | [k] => k
  | [] => if isNegativeNumber s || s.contains ' ' then .plain else .unknown
  | _ => .ambiguous

def classify (specs : List OptionSpec) (s : List Char) : Kind :=
  match s with
  | '-' :: _ :: _ =>
    match named? specs s with
    | some o => .option o .nothing
    | none =>
      match splitEquals s with
      | (name, some value) =>
        match named? specs name with
        | some o => .option o (tailOf name value)
        | none => guess specs s
      | _ => guess specs s
  | _ => .plain

/-- Classifies arguments; after a double dash all are plain. -/
def classifyAll (specs : List OptionSpec) : List String → List Argument
  | [] => []
  | a :: r =>
    if a = "--" then ⟨a, .mark⟩ :: r.map (⟨·, .plain⟩)
    else ⟨a, classify specs a.toList⟩ :: classifyAll specs r

/-- Option values by long name, the last one first; a flag has an empty value. -/
structure Found where
  values : List (String × String)
  extras : Bool

namespace Found

def none : Found :=
  ⟨[], false⟩

def value? (f : Found) (long : String) : Option String :=
  f.values.lookup long

def has (f : Found) (long : String) : Bool :=
  (f.value? long).isSome

def put (f : Found) (long value : String) : Found :=
  { f with values := (long, value) :: f.values }

def putFlags (f : Found) (flags : List String) : Found :=
  flags.foldl (fun found long => found.put long "") f

end Found

/-- How the reading of a command line ends: at its first plain argument, if that is wanted, or at its
end; with a request for help; or with an error. -/
inductive Reading where
  | stopped (found : Found) (rest : List String)
  | help
  | invalid

/-- The value that follows an option, and what follows the value. -/
def takeValue? (args : List Argument) : Option (String × List Argument) :=
  match args with
  | ⟨text, .plain⟩ :: r => some (text, r)
  | _ => none

/-- The flags that letters stand for, if each of them is one. -/
def flags? (specs : List OptionSpec) (letters : List Char) : Option (List String) :=
  letters.mapM fun c => (specs.find? (·.isShortFor c)).map OptionSpec.long

/-- Reads options. The first argument bounds their number; `stop` tells to stop at the first plain
argument instead of counting it as too many. -/
def readOptions (specs : List OptionSpec) (stop : Bool) : Nat → Found → List Argument → Reading
  | 0, _, _ => .invalid
  | _ + 1, found, [] => .stopped found []
  | fuel + 1, found, a :: r =>
    match a.kind with
    | .ambiguous => .invalid
    | .unknown => readOptions specs stop fuel { found with extras := true } r
    | .plain =>
      if stop then .stopped found ((a :: r).map (·.text))
      else readOptions specs stop fuel { found with extras := true } r
    | .mark => if stop then .invalid else readOptions specs stop fuel { found with extras := true } r
    | .option o tail =>
      match o.valued, tail with
      | true, .nothing => match takeValue? r with
        | some (v, r') => readOptions specs stop fuel (found.put o.long v) r'
        | none => .invalid
      | true, .assigned v => readOptions specs stop fuel (found.put o.long (String.ofList v)) r
      | true, .joined v => readOptions specs stop fuel (found.put o.long (String.ofList v)) r
      | false, .nothing =>
        if o.long = "help" then .help
        else readOptions specs stop fuel (found.put o.long "") r
      | false, .assigned _ => .invalid
      | false, .joined letters => match flags? specs letters with
        | none => .invalid
        | some flags =>
          if (o.long :: flags).contains "help" then .help
          else readOptions specs stop fuel (found.putFlags (o.long :: flags)) r

/-- Reads a whole command line; an ambiguous option anywhere makes it invalid. -/
def readArguments (specs : List OptionSpec) (stop : Bool) (args : List String) : Reading :=
  let classified := classifyAll specs args
  let isAmbiguous (a : Argument) : Bool := match a.kind with
    | .ambiguous => true
    | _ => false
  if classified.any isAmbiguous then .invalid
  else readOptions specs stop (args.length + 1) Found.none classified

end TableDraft.Command
