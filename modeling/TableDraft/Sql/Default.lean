import TableDraft.Sql.Ident
import TableDraft.Text.Case
import TableDraft.Text.Letter

namespace TableDraft.Sql
open TableDraft.Text

def allDigits (s : List Char) : Bool :=
  !s.isEmpty && s.all isDigit

/-- An optional sign, digits, and possibly a point with digits after it. -/
def isNumber (s : List Char) : Bool :=
  let unsigned := match s with
    | '+' :: r => r
    | '-' :: r => r
    | r => r
  match unsigned.dropWhile isDigit with
  | [] => allDigits unsigned
  | '.' :: r => allDigits (unsigned.takeWhile isDigit) && allDigits r
  | _ => false

def expressionWords : List String :=
  ["CURRENT_TIMESTAMP", "CURRENT_DATE", "CURRENT_TIME", "LOCALTIME", "LOCALTIMESTAMP", "NOW"]

/-- Nothing, or parentheses around digits. -/
def isPrecision (s : List Char) : Bool :=
  match s with
  | [] => true
  | '(' :: r => r.getLast? == some ')' && r.dropLast.all isDigit
  | _ => false

def isExpression (s : List Char) : Bool :=
  expressionWords.any fun w =>
    match afterWord? w.toList s with
    | some r => isPrecision r
    | none => false

def isTruthWord (s : List Char) : Bool :=
  upper s == "TRUE".toList || upper s == "FALSE".toList

def isQuoted (s : List Char) : Bool :=
  2 ≤ s.length && s.head? == some apostrophe && s.getLast? == some apostrophe

def isParenthesized (s : List Char) : Bool :=
  s.head? == some '(' && s.getLast? == some ')'

/-- Starts as a bit or hexadecimal literal does. -/
def isBitLiteral (s : List Char) : Bool :=
  match lowerAscii (s.take 2) with
  | [c, q] => (c == 'b' || c == 'x') && q == apostrophe
  | _ => false

def standsAlone (s : List Char) : Bool :=
  isNumber s || isExpression s || isTruthWord s || isQuoted s || isParenthesized s ||
    isBitLiteral s

def quotedString (s : List Char) : List Char :=
  apostrophe :: (doubled apostrophe s ++ [apostrophe])

/-- The literal for a default, if there is to be one: none for an empty text, nor for `NULL` where
no null is allowed. -/
def defaultLiteral? (value : Option String) (nullable : Bool) : Option String :=
  match value with
  | none => none
  | some text =>
    let s := trim text.toList
    if s.isEmpty then none
    else if upper s == "NULL".toList then (if nullable then some "NULL" else none)
    else some (String.ofList (if standsAlone s then s else quotedString s))

end TableDraft.Sql
