import TableDraft.Text.HiddenTable
import TableDraft.Text.Letter

namespace TableDraft.Text

def isHidden (c : Char) : Bool :=
  let n := c.toNat
  if n < 0x80 then n < 0x20 || n == 0x7F else inRanges hiddenRanges n

def lowHexDigit (n : Nat) : Char :=
  if n < 10 then Char.ofNat (48 + n) else Char.ofNat (87 + n)

/-- The last `count` hexadecimal digits of a number. -/
def lowHex : (count : Nat) → Nat → List Char
  | 0, _ => []
  | k + 1, n => lowHex k (n / 16) ++ [lowHexDigit (n % 16)]

def escapeChar (quote c : Char) : List Char :=
  let n := c.toNat
  if c = quote ∨ c = '\\' then ['\\', c]
  else if c = '\n' then ['\\', 'n']
  else if c = '\r' then ['\\', 'r']
  else if c = '\t' then ['\\', 't']
  else if !isHidden c then [c]
  else if n < 0x100 then '\\' :: 'x' :: lowHex 2 n
  else if n < 0x10000 then '\\' :: 'u' :: lowHex 4 n
  else '\\' :: 'U' :: lowHex 8 n

/-- Single quotes, or double ones around a text that has single quotes and no double ones. -/
def quotedText (s : String) : String :=
  let cs := s.toList
  let quote := if cs.contains '\x27' && !cs.contains '"' then '"' else '\x27'
  String.ofList (quote :: (cs.flatMap (escapeChar quote) ++ [quote]))

end TableDraft.Text
