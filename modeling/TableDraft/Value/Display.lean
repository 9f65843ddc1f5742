import TableDraft.Value
import TableDraft.Number.Shortest
import TableDraft.Text.Quoted

namespace TableDraft.Value
open TableDraft.Text

mutual

/-- The text of a value inside another one, where texts are quoted. -/
def inner : Value → String
  | null => "None"
  | bool b => if b then "True" else "False"
  | int n => toString n
  | float x => x.text
  | text s => quotedText s
  | moment s => s
  | list items => "[" ++ innerItems items ++ "]"
  | object fields => "\x7b" ++ innerFields fields ++ "\x7d"

def innerItems : List Value → String
  | [] => ""
  | [v] => inner v
  | v :: w :: r => inner v ++ ", " ++ innerItems (w :: r)

def innerFields : List (String × Value) → String
  | [] => ""
  | [(k, v)] => quotedText k ++ ": " ++ inner v
  | (k, v) :: f :: r => quotedText k ++ ": " ++ inner v ++ ", " ++ innerFields (f :: r)

end

/-- A text stands for itself; every other value is written as inside another one. -/
def display : Value → String
  | text s => s
  | v => inner v

/-- The word for the kind of a value in messages about a use it does not allow. -/
def kindWord : Value → String
  | null => "NoneType"
  | bool _ => "bool"
  | int _ => "int"
  | float _ => "float"
  | text _ => "str"
  | moment _ => "datetime.datetime"
  | list _ => "list"
  | object _ => "dict"

end TableDraft.Value
