import TableDraft.Text.Lines
import TableDraft.Toml.Node
import TableDraft.Toml.Scalar

namespace TableDraft.Toml
open TableDraft.Text

def isBareKeyChar (c : Char) : Bool :=
  isAsciiLetter c || isAsciiDigit c || c == '-' || c == '_'

def keyPart? (s : List Char) : Option (String × List Char) :=
  match s with
  | '"' :: r => (basicText false (r.length + 1) r).map fun p => (String.ofList p.1, p.2)
  | '\x27' :: r => (literalText r).map fun p => (String.ofList p.1, p.2)
  | _ =>
    let bare := s.takeWhile isBareKeyChar
    if bare.isEmpty then none else some (String.ofList bare, s.dropWhile isBareKeyChar)

/-- A key of one or more parts, with the blanks after it. The first argument bounds the parts. -/
def key? : Nat → List Char → Option (List String × List Char)
  | 0, _ => none
  | fuel + 1, s =>
    match keyPart? s with
    | none => none
    | some (part, r) => match skipSpace r with
      | '.' :: t => (key? fuel (skipSpace t)).map fun p => (part :: p.1, p.2)
      | t => some ([part], t)

/-- The rest of the line after a comment, if one starts here; a comment holds no controls. -/
def skipComment? (s : List Char) : Option (List Char) :=
  match s with
  | '#' :: r =>
    if (r.takeWhile (· != '\n')).any isControl then none else some (r.dropWhile (· != '\n'))
  | _ => some s

/-- Skips blanks, line breaks and comments. The first argument bounds the comments. -/
def skipFiller? : Nat → List Char → Option (List Char)
  | 0, _ => none
  | fuel + 1, s =>
    match s.dropWhile isSpaceOrBreak with
    | '#' :: r => (skipComment? ('#' :: r)).bind (skipFiller? fuel)
    | r => some r

mutual

/-- Reads a value. The first argument bounds the number of calls. Of the second one, the nesting
that is left, an array takes two and an inline table three. -/
def value : Nat → (room : Nat) → List Char → Except Problem (Value × List Char)
  | 0, _, _ => .error .malformed
  | fuel + 1, room, '[' :: r =>
    match room with
    | inner + 2 => do
      let s ← wellFormed (skipFiller? fuel r)
      match s with
      | ']' :: t => pure (.list [], t)
      | t =>
        let (vs, u) ← items fuel inner t
        pure (.list vs, u)
    | _ => .error .deepNesting
  | fuel + 1, room, '\x7b' :: r =>
    match room with
    | inner + 3 =>
      match skipSpace r with
      | '\x7d' :: t => pure (.object [], t)
      | t => do
        let (entries, u) ← members fuel inner [] t
        pure (.object (entriesFields entries), u)
    | _ => .error .deepNesting
  | _ + 1, _, s => scalar s

/-- The items of an array up to its closing bracket, before which a comma may stand. -/
def items : Nat → (room : Nat) → List Char → Except Problem (List Value × List Char)
  | 0, _, _ => .error .malformed
  | fuel + 1, room, s => do
    let (v, s₁) ← value fuel room s
    let s₂ ← wellFormed (skipFiller? fuel s₁)
    match s₂ with
    | ']' :: t => pure ([v], t)
    | ',' :: t =>
      let s₃ ← wellFormed (skipFiller? fuel t)
      match s₃ with
      | ']' :: u => pure ([v], u)
      | u =>
        let (vs, w) ← items fuel room u
        pure (v :: vs, w)
    | _ => .error .malformed

/-- The members of an inline table up to its closing brace, added to those before them. -/
def members : Nat → (room : Nat) → Entries → List Char → Except Problem (Entries × List Char)
  | 0, _, _, _ => .error .malformed
  | fuel + 1, room, known, s => do
    let (key, v, s₁) ← pair fuel room s
    let found ← wellFormed (assign 0 (key.getLast?.getD "") v key.dropLast known)
    match skipSpace s₁ with
    | '\x7d' :: t => pure (found, t)
    | ',' :: t => members fuel room found (skipSpace t)
    | _ => .error .malformed

def pair : Nat → (room : Nat) → List Char → Except Problem (List String × Value × List Char)
  | 0, _, _ => .error .malformed
  | fuel + 1, room, s => do
    let (key, s₁) ← wellFormed (key? fuel s)
    match s₁ with
    | '=' :: t =>
      let (v, s₂) ← value fuel room (skipSpace t)
      pure (key, v, s₂)
    | _ => .error .malformed

end

/-- The nesting that the value of a line may have. -/
def lineRoom : Nat := 985

/-- The tables read so far, and the section that key/value lines belong to. -/
structure Page where
  entries : Entries
  header : List String
  chapter : Nat

namespace Page

def assign? (p : Page) (key : List String) (v : Value) : Option Page :=
  (atPath (assign p.chapter (key.getLast?.getD "") v key.dropLast) p.header p.entries).map fun e =>
    { p with entries := e }

def open? (p : Page) (make : String → Entries → Option Entries) (key : List String) : Option Page :=
  (atPath (make (key.getLast?.getD "")) key.dropLast p.entries).map fun e =>
    ⟨e, key, p.chapter + 1⟩

end Page

/-- One line of a document that starts with none of blank, line break and comment; gives what
follows it. -/
def line (fuel : Nat) (p : Page) (s : List Char) : Except Problem (Page × List Char) :=
  match s with
  | '[' :: '[' :: r => do
    let (key, t) ← wellFormed (key? fuel (skipSpace r))
    let q ← wellFormed (p.open? appendTable key)
    match t with
    | ']' :: ']' :: u => pure (q, u)
    | _ => .error .malformed
  | '[' :: r => do
    let (key, t) ← wellFormed (key? fuel (skipSpace r))
    let q ← wellFormed (p.open? declare key)
    match t with
    | ']' :: u => pure (q, u)
    | _ => .error .malformed
  | _ => do
    let (key, v, t) ← pair fuel lineRoom s
    let q ← wellFormed (p.assign? key v)
    pure (q, t)

/-- Reads lines to the end of the document. The first argument bounds their number. -/
def lines (fuel : Nat) : Nat → Page → List Char → Except Problem Page
  | 0, _, _ => .error .malformed
  | n + 1, p, s =>
    match skipSpace s with
    | [] => .ok p
    | '\n' :: r => lines fuel n p r
    | t => do
      let (q, u) ← if t.head? = some '#' then pure (p, t) else line fuel p t
      let w ← wellFormed (skipComment? (skipSpace u))
      match w with
      | [] => pure q
      | '\n' :: r => lines fuel n q r
      | _ => .error .malformed

/-- The top-level table of a document, with its keys in the order of first mention. -/
def document (text : String) : Except Problem Fields := do
  let s := joinBreaks text.toList
  let fuel := 3 * s.length + 3
  let page ← lines fuel (s.length + 2) ⟨[], [], 0⟩ s
  pure (entriesFields page.entries)

end TableDraft.Toml
