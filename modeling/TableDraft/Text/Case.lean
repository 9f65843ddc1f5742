import TableDraft.Text.CaseTable

namespace TableDraft.Text

def CaseRun.covers (r : CaseRun) (n : Nat) : Bool :=
  r.first ≤ n && n ≤ r.last && (n - r.first) % r.step == 0

def upperChar (c : Char) : List Char :=
  let n := c.toNat
  if n < 0x80 then
    if 97 ≤ n && n ≤ 122 then [Char.ofNat (n - 32)] else [c]
  else match caseExpansions.lookup n with
    | some ms => ms.map Char.ofNat
    | none => match caseRuns.find? (·.covers n) with
      | some r => [Char.ofNat ((n : Int) + r.shift).toNat]
      | none => [c]

/-- Capitals by the full mapping, which may lengthen a text. -/
def upper (s : List Char) : List Char :=
  s.flatMap upperChar

@[simp] theorem upper_append (s t : List Char) : upper (s ++ t) = upper s ++ upper t :=
  List.flatMap_append

def uppered (s : String) : String :=
  String.ofList (upper s.toList)

@[simp] theorem toList_uppered (s : String) : (uppered s).toList = upper s.toList := by
  simp [uppered]

def lowerAsciiChar (c : Char) : Char :=
  let n := c.toNat
  if 65 ≤ n && n ≤ 90 then Char.ofNat (n + 32) else c

/-- Lower-cases `A` to `Z` only, which decides every comparison with a word of ASCII letters that
has no `k`: no other character has such a letter as its lower-case form. -/
def lowerAscii (s : List Char) : List Char :=
  s.map lowerAsciiChar

/-- Equal but for case, where `letter` is a capital from `A` to `Z`. Three of these have variants
outside ASCII. -/
def sameLetter (letter c : Char) : Bool :=
  c == letter || lowerAsciiChar letter == c ||
    (letter == 'I' && (c == '\u0130' || c == '\u0131')) ||
    (letter == 'S' && c == '\u017F') ||
    (letter == 'K' && c == '\u212A')

/-- What follows `word`, written in any case, at the start of a text. -/
def afterWord? : (word : List Char) → List Char → Option (List Char)
  | [], s => some s
  | _ :: _, [] => none
  | w :: ws, c :: s => if sameLetter w c then afterWord? ws s else none

end TableDraft.Text
