import TableDraft.Text.LetterTable

namespace TableDraft.Text

def inRanges (ranges : List (Nat × Nat)) (n : Nat) : Bool :=
  ranges.any fun r => r.1 ≤ n && n ≤ r.2

def isAsciiDigit (c : Char) : Bool :=
  48 ≤ c.toNat && c.toNat ≤ 57

def isAsciiLetter (c : Char) : Bool :=
  let n := c.toNat
  (65 ≤ n && n ≤ 90) || (97 ≤ n && n ≤ 122)

def isLetter (c : Char) : Bool :=
  if c.toNat < 0x80 then isAsciiLetter c else inRanges letterRanges c.toNat

/-- A digit of a positional decimal numeral, in any script. -/
def isDigit (c : Char) : Bool :=
  if c.toNat < 0x80 then isAsciiDigit c else inRanges digitRanges c.toNat

/-- The value of a decimal digit. In every script the ten digits stand in order, from zero on. -/
def digitOf? (c : Char) : Option Nat :=
  let n := c.toNat
  if isAsciiDigit c then some (n - 48)
  else (digitRanges.find? fun r => r.1 ≤ n && n ≤ r.2).map fun r => (n - r.1) % 10

def isNumeral (c : Char) : Bool :=
  if c.toNat < 0x80 then isAsciiDigit c else inRanges numeralRanges c.toNat

/-- Combining marks belong to no word. -/
def isWordChar (c : Char) : Bool :=
  isLetter c || isNumeral c || c == '_'

/-- No word runs on into `s`. -/
def atWordEnd (s : List Char) : Bool :=
  match s with
  | [] => true
  | c :: _ => !isWordChar c

end TableDraft.Text
