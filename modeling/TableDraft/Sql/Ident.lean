import TableDraft.Text.Blank

namespace TableDraft.Sql
open TableDraft.Text

def doubled (q : Char) (s : List Char) : List Char :=
  s.flatMap fun c => if c = q then [q, q] else [c]

@[simp] theorem doubled_nil (q : Char) : doubled q [] = [] := rfl

theorem doubled_cons (q c : Char) (s : List Char) :
    doubled q (c :: s) = (if c = q then [q, q] else [c]) ++ doubled q s := by
  simp [doubled]

@[simp] theorem doubled_append (q : Char) (s t : List Char) :
    doubled q (s ++ t) = doubled q s ++ doubled q t := by
  simp [doubled]

def backQuote : Char := '\x60'

def apostrophe : Char := '\x27'

def quotedIdent (name : List Char) : List Char :=
  backQuote :: (doubled backQuote (trim name) ++ [backQuote])

def ident (name : String) : String :=
  String.ofList (quotedIdent name.toList)

@[simp] theorem toList_ident (name : String) : (ident name).toList = quotedIdent name.toList := by
  simp [ident]

/-- A list of quoted names for parentheses. -/
def idents (names : List String) : String :=
  String.intercalate ", " (names.map ident)

/-- Trims a statement and ends it with a semicolon, in place of the one it may have. -/
def terminated (sql : String) : String :=
  let s := trim sql.toList
  String.ofList ((if s.getLast? = some ';' then s.dropLast else s) ++ [';'])

/-- A statement without blanks around it and without one closing semicolon. -/
def unterminated (sql : String) : String :=
  let s := trim sql.toList
  String.ofList (if s.getLast? = some ';' then trimRight s.dropLast else s)

end TableDraft.Sql
