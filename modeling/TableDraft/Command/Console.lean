import TableDraft.Text.Letter
import TableDraft.Workspace

namespace TableDraft.Command
open TableDraft.Text

/-- Whether a bracket before `s` opens a tag of markup and no ordinary text. -/
def startsTag (s : List Char) : Bool :=
  match s with
  | c :: _ => isAsciiLetter c || c == '/'
  | [] => false

/-- A text without its tags; `inside` tells whether one is open. -/
def withoutTags : (inside : Bool) → List Char → List Char
  | _, [] => []
  | true, c :: r => withoutTags (c != ']') r
  | false, c :: r =>
    if c = '[' ∧ startsTag r then withoutTags true r else c :: withoutTags false r

def plainText (s : String) : String :=
  String.ofList (withoutTags false s.toList)

def rowLine (cells : List String) : String :=
  String.intercalate " | " (cells.map plainText)

def eventText (e : Event) : String :=
  match e with
  | .text s _ raw => if raw then s else plainText s
  | .table title columns rows =>
    String.intercalate "\n" (plainText title :: rowLine columns :: rows.map rowLine)

def usage : String :=
  "usage: schema-designer [-h] [--env-prefix ENV_PREFIX] [-v] " ++
    "\x7bconnect,status,profiles,inspect,plan,push\x7d ..."

end TableDraft.Command
