import TableDraft.Text.Blank
import TableDraft.Text.Case
import TableDraft.Text.Letter

namespace TableDraft.Sql
open TableDraft.Text

/-- What follows `BEGIN` as a word of its own at the start of a text. -/
def afterBegin? (s : List Char) : Option (List Char) :=
  match afterWord? "BEGIN".toList (trimLeft s) with
  | some r => if atWordEnd r then some r else none
  | none => none

def withoutSemicolon (s : List Char) : List Char :=
  let t := trimRight s
  if t.getLast? = some ';' then trimRight t.dropLast else t

/-- What precedes a closing `END`, which a semicolon may follow; something that is not part of a
word has to stand before it. -/
def beforeEnd? (s : List Char) : Option (List Char) :=
  match afterWord? "DNE".toList (withoutSemicolon s).reverse with
  | some (c :: r) => if isWordChar c then none else some (c :: r).reverse
  | _ => none

/-- The inside of a `BEGIN … END` block, or the whole text if it is no block. -/
def unwrapped (s : List Char) : List Char :=
  match (afterBegin? s).bind beforeEnd? with
  | some inside => trim inside
  | none => trim s

def unwrapBlock (statement : String) : String :=
  String.ofList (unwrapped statement.toList)

end TableDraft.Sql
