import TableDraft.Column
import TableDraft.Sql.Default

namespace TableDraft.Sql
open TableDraft.Text

def lengthText (length : Option Mark) : List Char :=
  match length with
  | some m => trim m.text.toList
  | none => []

/-- The type with its length in parentheses, unless it has none or brings its own parentheses. -/
def columnType (c : Column) : String :=
  let type := trim c.dataType.toList
  let length := lengthText c.length
  String.ofList (if length.isEmpty || type.contains '(' then type
    else type ++ '(' :: (length ++ [')']))

/-- Type, nullability, default and auto increment, in this order. -/
def columnDefinition (c : Column) : String :=
  let default := match defaultLiteral? c.defaultValue c.nullable with
    | some d => ["DEFAULT " ++ d]
    | none => []
  String.intercalate " " ([columnType c, if c.nullable then "NULL" else "NOT NULL"] ++ default ++
    if c.autoIncrement then ["AUTO_INCREMENT"] else [])

/-- Upper-cases a type as the server writes it, but not what stands between its first opening and
its last closing parenthesis. -/
def fullType (type : String) : String :=
  let s := trim type.toList
  let head := s.takeWhile (· != '(')
  match s.dropWhile (· != '(') with
  | [] => String.ofList (upper head)
  | _ :: rest =>
    let tail := (rest.reverse.takeWhile (· != ')')).reverse
    let arguments := ((rest.reverse.dropWhile (· != ')')).drop 1).reverse
    String.ofList (upper head ++ '(' :: (arguments ++ ')' :: upper tail))

end TableDraft.Sql
