import TableDraft.Number.Binary64
import TableDraft.Number.Digits
import TableDraft.Value

namespace TableDraft.Json
open TableDraft.Number TableDraft.Text

def isSpace (c : Char) : Bool :=
  c == ' ' || c == '\n' || c == '\r' || c == '\t'

def skipSpace (s : List Char) : List Char :=
  s.dropWhile isSpace

def hexUnit? (a b c d : Char) : Option Nat :=
  ofDigits? 16 [a, b, c, d]

/-- The character that a backslash and this letter stand for. -/
def escaped? (c : Char) : Option Char :=
  if c = '"' ∨ c = '\\' ∨ c = '/' then some c
  else if c = 'b' then some '\x08'
  else if c = 'f' then some '\x0C'
  else if c = 'n' then some '\n'
  else if c = 'r' then some '\r'
  else if c = 't' then some '\t'
  else none

def isHighSurrogate (n : Nat) : Bool :=
  0xD800 ≤ n && n ≤ 0xDBFF

def isLowSurrogate (n : Nat) : Bool :=
  0xDC00 ≤ n && n ≤ 0xDFFF

def ofSurrogates (high low : Nat) : Char :=
  Char.ofNat (0x10000 + (high - 0xD800) * 0x400 + (low - 0xDC00))

/-- Reads on from an opening quote: the text up to the closing one, and what follows it. -/
def textBody : List Char → Option (List Char × List Char)
  | [] => none
  | '"' :: r => some ([], r)
  | '\\' :: 'u' :: a :: b :: c :: d :: r =>
    match hexUnit? a b c d with
    | none => none
    | some n =>
      if isHighSurrogate n then
        match r with
        | '\\' :: 'u' :: e :: f :: g :: h :: r' =>
          match hexUnit? e f g h with
          | some m =>
            if isLowSurrogate m then (textBody r').map fun p => (ofSurrogates n m :: p.1, p.2)
            else none
          | none => none
        | _ => none
      else if isLowSurrogate n then none
      else (textBody r).map fun p => (Char.ofNat n :: p.1, p.2)
  | '\\' :: c :: r =>
    match escaped? c with
    | some e => (textBody r).map fun p => (e :: p.1, p.2)
    | none => none
  | c :: r =>
    if c.toNat < 0x20 || c = '\\' then none
    else (textBody r).map fun p => (c :: p.1, p.2)

/-- The digits after a point, if there is one; a point needs a digit. -/
def fraction? : List Char → Option (Option (List Char) × List Char)
  | '.' :: r =>
    let ds := r.takeWhile isAsciiDigit
    if ds.isEmpty then none else some (some ds, r.dropWhile isAsciiDigit)
  | s => some (none, s)

/-- The exponent, if there is one; its mark needs a digit. -/
def exponent? : List Char → Option (Option Int × List Char)
  | c :: r =>
    if c = 'e' ∨ c = 'E' then
      let (negative, s) := signed r
      let ds := s.takeWhile isAsciiDigit
      if ds.isEmpty then none
      else some (some (withSign negative (digitsValue ds)), s.dropWhile isAsciiDigit)
    else some (none, c :: r)
  | [] => some (none, [])

/-- A number after its sign, with at most `longest` digits before its fraction and exponent. A
leading zero has no digit after it. -/
def unsigned? (longest : Nat) (negative : Bool) (s : List Char) : Option (Value × List Char) :=
  let whole := s.takeWhile isAsciiDigit
  if whole.isEmpty || (whole.head? == some '0' && whole.length != 1) then none
  else if longest < whole.length then none
  else do
    let (fraction, s₁) ← fraction? (s.dropWhile isAsciiDigit)
    let (exponent, s₂) ← exponent? s₁
    match fraction, exponent with
    | none, none => pure (.int (withSign negative (digitsValue whole)), s₂)
    | f, e =>
      let ds := f.getD []
      pure (.float (Binary64.ofDecimal negative (digitsValue (whole ++ ds)) (e.getD 0 - ds.length)), s₂)

def after? (word s : List Char) : Option (List Char) :=
  if word.isPrefixOf s then some (s.drop word.length) else none

/-- The values that are written as words, infinities and not-a-number among them. -/
def wordValues : List (String × Value) :=
  [("true", .bool true), ("false", .bool false), ("null", .null), ("NaN", .float Binary64.nan),
    ("Infinity", .float (Binary64.infinity false)), ("-Infinity", .float (Binary64.infinity true))]

def word? (s : List Char) : Option (Value × List Char) :=
  wordValues.findSome? fun w => (after? w.1.toList s).map (w.2, ·)

def number? (longest : Nat) : List Char → Option (Value × List Char)
  | '-' :: r => unsigned? longest true r
  | s => unsigned? longest false s

mutual

/-- Reads one value with at most `depth` further levels of nesting. The first argument bounds the
length of numbers and the second one the number of calls. -/
def value? (longest : Nat) : Nat → (depth : Nat) → List Char → Option (Value × List Char)
  | 0, _, _ => none
  | fuel + 1, depth, s =>
    match skipSpace s with
    | '"' :: r => (textBody r).map fun p => (.text (String.ofList p.1), p.2)
    | '[' :: r =>
      match skipSpace r with
      | ']' :: t => some (.list [], t)
      | t => match depth with
        | 0 => none
        | d + 1 => (items? longest fuel d t).map fun p => (.list p.1, p.2)
    | '\x7b' :: r =>
      match skipSpace r with
      | '\x7d' :: t => some (.object [], t)
      | t => match depth with
        | 0 => none
        | d + 1 => (members? longest fuel d [] t).map fun p => (.object p.1, p.2)
    | t => match word? t with
      | some p => some p
      | none => number? longest t

/-- Items up to the closing bracket, of which there is at least one. -/
def items? (longest : Nat) : Nat → (depth : Nat) → List Char → Option (List Value × List Char)
  | 0, _, _ => none
  | fuel + 1, depth, s =>
    match value? longest fuel depth s with
    | none => none
    | some (v, r) => match skipSpace r with
      | ',' :: t => (items? longest fuel depth t).map fun p => (v :: p.1, p.2)
      | ']' :: t => some ([v], t)
      | _ => none

/-- Members up to the closing brace, added to those before them. -/
def members? (longest : Nat) : Nat → (depth : Nat) → Fields → List Char → Option (Fields × List Char)
  | 0, _, _, _ => none
  | fuel + 1, depth, known, s =>
    match skipSpace s with
    | '"' :: r => match textBody r with
      | none => none
      | some (key, r₁) => match skipSpace r₁ with
        | ':' :: r₂ => match value? longest fuel depth r₂ with
          | none => none
          | some (v, r₃) =>
            let found := known.put (String.ofList key) v
            match skipSpace r₃ with
            | ',' :: t => members? longest fuel depth found t
            | '\x7d' :: t => some (found, t)
            | _ => none
        | _ => none
    | _ => none

end

/-- Reads a whole text as one value. -/
def read? (longest depth : Nat) (text : List Char) : Option Value :=
  match value? longest (2 * text.length + 2) depth text with
  | some (v, r) => if (skipSpace r).isEmpty then some v else none
  | none => none

/-- The nesting that a document may have. -/
def documentDepth : Nat := 200

/-- Reads a document strictly: whole numbers are exact, and of a repeated key the last value counts. -/
def document? (text : String) : Option Value :=
  read? digitLimit documentDepth text.toList

end TableDraft.Json
