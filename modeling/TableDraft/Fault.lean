import TableDraft.Number.Digits
import TableDraft.Text.Blank
import TableDraft.Value

namespace TableDraft

inductive FaultKind where
  | missing
  | notObject
  | notText
  | notFlag
  | unreadableFlag
  | notInteger
  | notWhole
  | notFinite
  | tooLarge
  | notList
  | unreadableInteger
  | notListed
  | badJson
  deriving DecidableEq

inductive PathStep where
  | field (name : String)
  | item (index : Nat)
  deriving DecidableEq

structure Fault where
  kind : FaultKind
  path : List PathStep
  deriving DecidableEq

def Fault.within (step : PathStep) (f : Fault) : Fault :=
  { f with path := step :: f.path }

/-- The outcome of a check: the value it found to be good, or all of its faults, in the order of the
fields that have them. -/
inductive Checked (α : Type) where
  | good (a : α)
  | bad (faults : List Fault)
  deriving DecidableEq

namespace Checked

def fault (kind : FaultKind) : Checked α :=
  bad [⟨kind, []⟩]

protected def map (f : α → β) : Checked α → Checked β
  | good a => good (f a)
  | bad faults => bad faults

def ofExcept : Except FaultKind α → Checked α
  | .ok a => good a
  | .error kind => fault kind

/-- Both checks are made, and the faults of both are kept. -/
protected def seq : Checked (α → β) → Checked α → Checked β
  | good f, good a => good (f a)
  | good _, bad e => bad e
  | bad e, good _ => bad e
  | bad e, bad e' => bad (e ++ e')

instance : Applicative Checked where
  pure := good
  map := Checked.map
  seq f a := Checked.seq f (a ())

@[simp] theorem map_good (f : α → β) (a : α) : f <$> good a = good (f a) := rfl

@[simp] theorem seq_good (f : α → β) (a : α) : good f <*> good a = good (f a) := rfl

def within (step : PathStep) : Checked α → Checked α
  | good a => good a
  | bad faults => bad (faults.map (Fault.within step))

def isGood : Checked α → Bool
  | good _ => true
  | bad _ => false

end Checked

def checkText : Value → Checked String
  | .text s => .good s
  | _ => .fault .notText

def checkOptional (check : Value → Checked α) : Value → Checked (Option α)
  | .null => .good none
  | v => (check v).map some

def flagWords : List (String × Bool) :=
  [("0", false), ("off", false), ("f", false), ("false", false), ("n", false), ("no", false),
    ("1", true), ("on", true), ("t", true), ("true", true), ("y", true), ("yes", true)]

def flagOfWord (s : String) : Checked Bool :=
  match flagWords.lookup (s.map Char.toLower) with
  | some b => .good b
  | none => .fault .unreadableFlag

def wordBound : Nat :=
  Nat.pow 2 63

/-- Whether a machine word of sixty-four bits holds a number and its sign. -/
def fitsWord (n : Int) : Bool :=
  -(wordBound : Int) ≤ n && n < wordBound

/-- The whole number that a float equals. At the bounds of a machine word a float may stand for
numbers beyond them, so it counts as too large. -/
def wholeOfFloat (x : Number.Binary64) : Except FaultKind Int :=
  match x.toInt? with
  | some n => if n.natAbs < wordBound then .ok n else .error .tooLarge
  | none => .error (if x.isFinite then .notWhole else .notFinite)

/-- A number that no machine word holds is not read as a flag at all. -/
def flagOfInt (n : Int) : Checked Bool :=
  if n = 0 then .good false
  else if n = 1 then .good true
  else .fault (if fitsWord n then .unreadableFlag else .notFlag)

def checkFlag : Value → Checked Bool
  | .bool b => .good b
  | .int n => flagOfInt n
  | .float x => match wholeOfFloat x with
    | .ok n => flagOfInt n
    | .error _ => .fault .notFlag
  | .text s => flagOfWord s
  | _ => .fault .notFlag

/-- Drops the zeros of a fraction that has nothing else. -/
def withoutZeroFraction (s : List Char) : List Char :=
  match s.dropWhile (· != '.') with
  | '.' :: z => if z.all (· == '0') then s.takeWhile (· != '.') else s
  | _ => s

/-- The characters of a number that count toward its length: a minus sign, and the digits after it
or those from the first that is not zero. -/
def countedLength (negative : Bool) (digits : List Char) : Nat :=
  if negative then digits.length + 1 else (digits.dropWhile (· == '0')).length

/-- A whole number in decimal digits, between which single underscores may stand. -/
def intOfWord (text : List Char) : Except FaultKind Int :=
  let (negative, unsigned) := Number.signed (withoutZeroFraction (Text.trimWhiteSpace text))
  let groups := unsigned.splitOnP (· == '_')
  if groups.all fun g => !g.isEmpty && g.all Text.isAsciiDigit then
    let digits := groups.flatten
    if countedLength negative digits ≤ Number.digitLimit then
      .ok (Number.withSign negative (Number.digitsValue digits))
    else .error .tooLarge
  else .error .unreadableInteger

/-- Truth values count as 0 and 1; floats and texts count if they stand for a whole number. -/
def checkInt : Value → Checked Int
  | .int n => .good n
  | .bool b => .good (if b then 1 else 0)
  | .float x => .ofExcept (wholeOfFloat x)
  | .text s => .ofExcept (intOfWord s.toList)
  | _ => .fault .notInteger

/-- Checks every item, from the given index on. -/
def checkItems (check : Value → Checked α) : (index : Nat) → List Value → Checked (List α)
  | _, [] => .good []
  | i, v :: r => List.cons <$> (check v).within (.item i) <*> checkItems check (i + 1) r

def checkList (check : Value → Checked α) : Value → Checked (List α)
  | .list items => checkItems check 0 items
  | _ => .fault .notList

namespace Fields

def required (fields : Fields) (name : String) (check : Value → Checked α) : Checked α :=
  Checked.within (.field name) <| match fields.get? name with
    | some v => check v
    | none => .fault .missing

def orElse (fields : Fields) (name : String) (default : α) (check : Value → Checked α) : Checked α :=
  match fields.get? name with
  | some v => (check v).within (.field name)
  | none => .good default

end Fields

/-- Checks the fields of an object; any other value is no object. -/
def checkObject (check : Fields → Checked α) : Value → Checked α
  | .object fields => check fields
  | _ => .fault .notObject

end TableDraft
