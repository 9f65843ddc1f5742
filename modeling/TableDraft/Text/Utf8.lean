namespace TableDraft.Text.Utf8

/-- Where a reader stands: between characters, or inside one, with the bits so far, the number of
bytes still due, and the bounds of the next byte. -/
inductive Place where
  | between
  | inside (bits due low high : Nat)
  deriving DecidableEq

def replacement : Char := '\uFFFD'

/-- Reads a byte that starts a character. -/
def lead (b : Nat) : List Char × Place :=
  if b < 0x80 then ([Char.ofNat b], .between)
  else if 0xC2 ≤ b && b ≤ 0xDF then ([], .inside (b - 0xC0) 1 0x80 0xBF)
  else if b == 0xE0 then ([], .inside 0 2 0xA0 0xBF)
  else if b == 0xED then ([], .inside 0xD 2 0x80 0x9F)
  else if 0xE1 ≤ b && b ≤ 0xEF then ([], .inside (b - 0xE0) 2 0x80 0xBF)
  else if b == 0xF0 then ([], .inside 0 3 0x90 0xBF)
  else if 0xF1 ≤ b && b ≤ 0xF3 then ([], .inside (b - 0xF0) 3 0x80 0xBF)
  else if b == 0xF4 then ([], .inside 4 3 0x80 0x8F)
  else ([replacement], .between)

def step : Place → Nat → List Char × Place
  | .between, b => lead b
  | .inside bits due low high, b =>
    if low ≤ b && b ≤ high then
      if due ≤ 1 then ([Char.ofNat (bits * 64 + b % 64)], .between)
      else ([], .inside (bits * 64 + b % 64) (due - 1) 0x80 0xBF)
    else
      let (cs, place) := lead b
      (replacement :: cs, place)

def decodeFrom : Place → List UInt8 → List Char
  | .between, [] => []
  | .inside .., [] => [replacement]
  | place, b :: r =>
    let (cs, next) := step place b.toNat
    cs ++ decodeFrom next r

/-- Each longest run of bytes that starts no complete character becomes one replacement
character. -/
def decodeLossy (bytes : List UInt8) : List Char :=
  decodeFrom .between bytes

end TableDraft.Text.Utf8
