import TableDraft.Text.Letter

namespace TableDraft.Number
open TableDraft.Text

def digitsValue (ds : List Char) : Nat :=
  ds.foldl (fun n c => n * 10 + (c.toNat - 48)) 0

/-- The most digits that a whole number is read from. -/
def digitLimit : Nat := 4300

/-- Whether a text starts with a minus sign, and what follows a sign of either kind. -/
def signed (s : List Char) : Bool × List Char :=
  match s with
  | '-' :: r => (true, r)
  | '+' :: r => (false, r)
  | r => (false, r)

def withSign (negative : Bool) (n : Nat) : Int :=
  if negative then -(n : Int) else n

def hexValue? (c : Char) : Option Nat :=
  let n := c.toNat
  if 48 ≤ n ∧ n ≤ 57 then some (n - 48)
  else if 65 ≤ n ∧ n ≤ 70 then some (n - 55)
  else if 97 ≤ n ∧ n ≤ 102 then some (n - 87)
  else none

/-- The number that digits of a base below seventeen stand for. -/
def ofDigits? (base : Nat) (ds : List Char) : Option Nat :=
  ds.foldlM (fun n c => match hexValue? c with
    | some d => if d < base then some (n * base + d) else none
    | none => none) 0

end TableDraft.Number
