import TableDraft.Number.Binary64
import TableDraft.Number.Digits
import TableDraft.Value

namespace TableDraft.Toml
open TableDraft.Number TableDraft.Text

/-- Why a document cannot be read. -/
inductive Problem where
  | malformed
  | longNumber (digits : Nat)
  | deepNesting
  deriving DecidableEq

def wellFormed : Option α → Except Problem α
  | some a => .ok a
  | none => .error .malformed

def isSpace (c : Char) : Bool :=
  c == ' ' || c == '\t'

def skipSpace (s : List Char) : List Char :=
  s.dropWhile isSpace

def isSpaceOrBreak (c : Char) : Bool :=
  isSpace c || c == '\n'

/-- A control character other than a tab, which no text or comment may hold as it is. -/
def isControl (c : Char) : Bool :=
  let n := c.toNat
  (n < 0x20 && c != '\t') || n == 0x7F

def isIllegal (multiline : Bool) (c : Char) : Bool :=
  isControl c && !(multiline && c == '\n')

def apostrophes : List Char := ['\x27', '\x27', '\x27']

def quotes : List Char := ['"', '"', '"']

def literalText : List Char → Option (List Char × List Char)
  | [] => none
  | c :: r =>
    if c = '\x27' then some ([], r)
    else if isIllegal false c then none
    else (literalText r).map fun p => (c :: p.1, p.2)

def literalBlock : List Char → Option (List Char × List Char)
  | [] => none
  | c :: r =>
    if apostrophes.isPrefixOf (c :: r) then some ([], r.drop 2)
    else if isIllegal true c then none
    else (literalBlock r).map fun p => (c :: p.1, p.2)

/-- The character with the code point that these digits give. -/
def scalarOf? (digits : List Char) (count : Nat) : Option Char :=
  if digits.length = count then
    match ofDigits? 16 digits with
    | some n => if n < 0xD800 ∨ (0xDFFF < n ∧ n ≤ 0x10FFFF) then some (Char.ofNat n) else none
    | none => none
  else none

def escaped? (c : Char) : Option Char :=
  if c = '"' ∨ c = '\\' then some c
  else if c = 'b' then some '\x08'
  else if c = 't' then some '\t'
  else if c = 'n' then some '\n'
  else if c = 'f' then some '\x0C'
  else if c = 'r' then some '\r'
  else none

/-- What a backslash before `s` stands for. In a block it may also join lines. -/
def escape? (multiline : Bool) (s : List Char) : Option (List Char × List Char) :=
  match s with
  | [] => none
  | 'u' :: r => (scalarOf? (r.take 4) 4).map fun c => ([c], r.drop 4)
  | 'U' :: r => (scalarOf? (r.take 8) 8).map fun c => ([c], r.drop 8)
  | c :: r =>
    if multiline && isSpaceOrBreak c then
      match skipSpace (c :: r) with
      | [] => some ([], [])
      | '\n' :: t => some ([], t.dropWhile isSpaceOrBreak)
      | _ => none
    else (escaped? c).map fun e => ([e], r)

/-- Reads on from the opening quote of a basic text. The first argument bounds the number of
characters and escapes. -/
def basicText (multiline : Bool) : Nat → List Char → Option (List Char × List Char)
  | 0, _ => none
  | _ + 1, [] => none
  | fuel + 1, c :: r =>
    if c = '"' ∧ (!multiline || quotes.isPrefixOf (c :: r)) then
      some ([], if multiline then r.drop 2 else r)
    else if c = '\\' then do
      let (e, t) ← escape? multiline r
      let (cs, u) ← basicText multiline fuel t
      pure (e ++ cs, u)
    else if isIllegal multiline c then none
    else (basicText multiline fuel r).map fun p => (c :: p.1, p.2)

def skipBreak (s : List Char) : List Char :=
  match s with
  | '\n' :: r => r
  | r => r

/-- Up to two quotes right after a block belong to its text. -/
def extraQuotes (q : Char) (p : List Char × List Char) : List Char × List Char :=
  let extra := (p.2.take 2).takeWhile (· == q)
  (p.1 ++ extra, p.2.drop extra.length)

def text? (s : List Char) : Option (String × List Char) :=
  let found : Option (List Char × List Char) :=
    if quotes.isPrefixOf s then
      (basicText true (s.length + 1) (skipBreak (s.drop 3))).map (extraQuotes '"')
    else if apostrophes.isPrefixOf s then
      (literalBlock (skipBreak (s.drop 3))).map (extraQuotes '\x27')
    else match s with
      | '"' :: r => basicText false (r.length + 1) r
      | '\x27' :: r => literalText r
      | _ => none
  found.map fun p => (String.ofList p.1, p.2)

def digits? (count : Nat) (s : List Char) : Option (Nat × List Char) :=
  let ds := s.take count
  if ds.length = count ∧ ds.all isAsciiDigit then some (digitsValue ds, s.drop count) else none

def char? (p : Char → Bool) (s : List Char) : Option (Char × List Char) :=
  match s with
  | c :: r => if p c then some (c, r) else none
  | [] => none

def number2? (low high : Nat) (s : List Char) : Option (Nat × List Char) :=
  match digits? 2 s with
  | some (n, r) => if low ≤ n ∧ n ≤ high then some (n, r) else none
  | none => none

/-- Hours, minutes and seconds, possibly with a fraction; gives what follows. -/
def time? (s : List Char) : Option (List Char) := do
  let (_, s) ← number2? 0 23 s
  let (_, s) ← char? (· == ':') s
  let (_, s) ← number2? 0 59 s
  let (_, s) ← char? (· == ':') s
  let (_, s) ← number2? 0 59 s
  match s with
  | '.' :: c :: r => pure (if isAsciiDigit c then r.dropWhile isAsciiDigit else s)
  | _ => pure s

def skipOffset (s : List Char) : List Char :=
  let numeric : Option (List Char) := do
    let (_, s) ← char? (fun c => c == '+' || c == '-') s
    let (_, s) ← number2? 0 23 s
    let (_, s) ← char? (· == ':') s
    let (_, s) ← number2? 0 59 s
    pure s
  match s with
  | 'Z' :: r => r
  | 'z' :: r => r
  | _ => numeric.getD s

def daysIn (year month : Nat) : Nat :=
  if month = 2 then (if year % 4 = 0 ∧ (year % 100 ≠ 0 ∨ year % 400 = 0) then 29 else 28)
  else if month = 4 ∨ month = 6 ∨ month = 9 ∨ month = 11 then 30
  else 31

structure Date where
  year : Nat
  month : Nat
  day : Nat

def Date.exists (d : Date) : Bool :=
  1 ≤ d.year && d.day ≤ daysIn d.year d.month

def date? (s : List Char) : Option (Date × List Char) := do
  let (year, s) ← digits? 4 s
  let (_, s) ← char? (· == '-') s
  let (month, s) ← number2? 1 12 s
  let (_, s) ← char? (· == '-') s
  let (day, s) ← number2? 1 31 s
  pure (⟨year, month, day⟩, s)

/-- What follows a time of day that may belong to a date. -/
def skipTimeOfDay (s : List Char) : List Char :=
  match s with
  | c :: r => if c = 'T' ∨ c = 't' ∨ c = ' ' then ((time? r).map skipOffset).getD s else s
  | [] => s

/-- Keeps the characters up to the rest of the text. -/
def momentUpTo (s rest : List Char) : Value × List Char :=
  (.moment (String.ofList (s.take (s.length - rest.length))), rest)

/-- Digits, between which single underscores may stand. -/
def digitRun (p : Char → Bool) : List Char → List Char × List Char
  | [] => ([], [])
  | [c] => if p c then ([c], []) else ([], [c])
  | c :: d :: r =>
    if p c then
      if d = '_' then
        match r with
        | e :: _ => if p e then let q := digitRun p r; (c :: q.1, q.2) else ([c], d :: r)
        | [] => ([c], d :: r)
      else let q := digitRun p (d :: r); (c :: q.1, q.2)
    else ([], c :: d :: r)

def radixDigit (base : Nat) (c : Char) : Bool :=
  match hexValue? c with
  | some d => d < base
  | none => false

/-- A whole number after `0` and the letter of its base. -/
def radixNumber? (base : Nat) (s : List Char) : Option (Value × List Char) :=
  let (ds, r) := digitRun (radixDigit base) s
  if ds.isEmpty then none else (ofDigits? base ds).map fun n => (.int n, r)

/-- The whole part of a decimal number, which has no leading zero. -/
def whole? (s : List Char) : Option (List Char × List Char) :=
  match s with
  | '0' :: r => some (['0'], r)
  | _ =>
    let (ds, r) := digitRun isAsciiDigit s
    if ds.isEmpty then none else some (ds, r)

def fraction (s : List Char) : Option (List Char) × List Char :=
  match s with
  | '.' :: r =>
    let (ds, t) := digitRun isAsciiDigit r
    if ds.isEmpty then (none, s) else (some ds, t)
  | _ => (none, s)

def exponent (s : List Char) : Option Int × List Char :=
  match s with
  | c :: r =>
    if c = 'e' ∨ c = 'E' then
      let (negative, t) := signed r
      let (ds, u) := digitRun isAsciiDigit t
      if ds.isEmpty then (none, s) else (some (withSign negative (digitsValue ds)), u)
    else (none, s)
  | [] => (none, s)

/-- A decimal number as it is written. -/
structure DecimalText where
  negative : Bool
  whole : List Char
  fraction : Option (List Char)
  exponent : Option Int

def decimalText? (s : List Char) : Option (DecimalText × List Char) := do
  let (negative, s₀) := signed s
  let (ds, s₁) ← whole? s₀
  let (fs, s₂) := fraction s₁
  let (e, s₃) := exponent s₂
  pure (⟨negative, ds, fs, e⟩, s₃)

/-- A float if there is a fraction or an exponent. Only whole numbers are limited in length. -/
def DecimalText.value (d : DecimalText) : Except Problem Value :=
  match d.fraction, d.exponent with
  | none, none =>
    if d.whole.length ≤ digitLimit then .ok (.int (withSign d.negative (digitsValue d.whole)))
    else .error (.longNumber d.whole.length)
  | fs, e =>
    let fs := fs.getD []
    .ok (.float
      (Binary64.ofDecimal d.negative (digitsValue (d.whole ++ fs)) (e.getD 0 - fs.length)))

def special? (s : List Char) : Option (Value × List Char) :=
  let (negative, r) := signed s
  if "inf".toList.isPrefixOf r then some (.float (Binary64.infinity negative), r.drop 3)
  else if "nan".toList.isPrefixOf r then some (.float Binary64.nan, r.drop 3)
  else none

def inRadix? (s : List Char) : Option (Value × List Char) :=
  match s with
  | '0' :: 'x' :: r => radixNumber? 16 r
  | '0' :: 'b' :: r => radixNumber? 2 r
  | '0' :: 'o' :: r => radixNumber? 8 r
  | _ => none

def number (s : List Char) : Except Problem (Value × List Char) :=
  match inRadix? s with
  | some p => .ok p
  | none => match decimalText? s with
    | some (d, r) => d.value.map (·, r)
    | none => wellFormed (special? s)

def truth? (s : List Char) : Option (Value × List Char) :=
  if "true".toList.isPrefixOf s then some (.bool true, s.drop 4)
  else if "false".toList.isPrefixOf s then some (.bool false, s.drop 5)
  else none

/-- A value that is neither an array nor an inline table. A date that does not exist is none. -/
def scalar (s : List Char) : Except Problem (Value × List Char) :=
  match s with
  | '"' :: _ => wellFormed ((text? s).map fun p => (.text p.1, p.2))
  | '\x27' :: _ => wellFormed ((text? s).map fun p => (.text p.1, p.2))
  | _ => match truth? s with
    | some p => .ok p
    | none => match date? s with
      | some (d, r) =>
        if d.exists then .ok (momentUpTo s (skipTimeOfDay r)) else .error .malformed
      | none => match time? s with
        | some r => .ok (momentUpTo s r)
        | none => number s

end TableDraft.Toml
