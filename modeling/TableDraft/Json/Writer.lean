import TableDraft.Number.Shortest
import TableDraft.Text.Quoted
import TableDraft.Value

namespace TableDraft.Json
open TableDraft.Text

/-- Quotes, backslashes and control characters are escaped, and nothing else. -/
def escapeChar (c : Char) : List Char :=
  if c = '"' then ['\\', '"']
  else if c = '\\' then ['\\', '\\']
  else if c = '\x08' then ['\\', 'b']
  else if c = '\x0C' then ['\\', 'f']
  else if c = '\n' then ['\\', 'n']
  else if c = '\r' then ['\\', 'r']
  else if c = '\t' then ['\\', 't']
  else if c.toNat < 0x20 then '\\' :: 'u' :: lowHex 4 c.toNat
  else [c]

def textToken (s : String) : List Char :=
  '"' :: (s.toList.flatMap escapeChar ++ ['"'])

/-- The blanks of a layout. -/
structure Layout where
  /-- What separates an item from the one before it, or from the bracket, at a given level. -/
  newline : Nat → List Char
  /-- What follows the colon after a key. -/
  afterColon : List Char

namespace Layout

def compact : Layout :=
  ⟨fun _ => [], []⟩

def indented (width : Nat) : Layout :=
  ⟨fun level => '\n' :: List.replicate (level * width) ' ', [' ']⟩

end Layout

mutual

def token (layout : Layout) (level : Nat) : Value → List Char
  | .null => "null".toList
  | .bool b => if b then "true".toList else "false".toList
  | .int n => (toString n).toList
  | .float x => x.text.toList
  | .text s => textToken s
  | .moment s => textToken s
  | .list [] => "[]".toList
  | .list (v :: r) =>
    '[' :: (layout.newline (level + 1) ++ token layout (level + 1) v ++
      tailTokens layout (level + 1) r ++ layout.newline level ++ [']'])
  | .object [] => ['\x7b', '\x7d']
  | .object ((k, v) :: r) =>
    '\x7b' :: (layout.newline (level + 1) ++ textToken k ++ ':' :: layout.afterColon ++
      token layout (level + 1) v ++ tailMembers layout (level + 1) r ++ layout.newline level ++ ['\x7d'])

def tailTokens (layout : Layout) (level : Nat) : List Value → List Char
  | [] => []
  | v :: r => ',' :: (layout.newline level ++ token layout level v ++ tailTokens layout level r)

def tailMembers (layout : Layout) (level : Nat) : List (String × Value) → List Char
  | [] => []
  | (k, v) :: r =>
    ',' :: (layout.newline level ++ textToken k ++ ':' :: layout.afterColon ++ token layout level v ++
      tailMembers layout level r)

end

def write (layout : Layout) (v : Value) : String :=
  String.ofList (token layout 0 v)

end TableDraft.Json
