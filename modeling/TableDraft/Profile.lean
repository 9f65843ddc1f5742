import TableDraft.Failure
import TableDraft.Text.Percent
import TableDraft.Text.Search
import TableDraft.Toml.Reader
import TableDraft.Value.Display

namespace TableDraft
open TableDraft.Text

structure Profile where
  url : String
  description : String
  password : Option String
  provider : String
  deriving DecidableEq

namespace Profile

def checkFields (fields : Fields) : Checked Profile :=
  Profile.mk
    <$> fields.required "url" checkText
    <*> fields.orElse "description" "" checkText
    <*> fields.orElse "db_password" none (checkOptional checkText)
    <*> fields.orElse "provider" "mysql" checkText

def check : Value → Checked Profile :=
  checkObject checkFields

def fields (p : Profile) : Fields :=
  [("url", .text p.url), ("description", .text p.description),
    ("db_password", Value.ofText? p.password), ("provider", .text p.provider)]

/-- Where the password goes in a URL. -/
def placeholder : List Char :=
  "[YOUR-PASSWORD]".toList

/-- The URL with the password, percent-encoded, in place of the placeholder. -/
def resolvedUrl (p : Profile) : String :=
  match p.password with
  | none => p.url
  | some password =>
    if password = "" then p.url
    else String.ofList (replaceAll placeholder (Percent.encode password.toList) p.url.toList)

end Profile

structure Config where
  profiles : List (String × Profile)
  lockGuard : Bool
  deriving DecidableEq

namespace Config

def profilesOf : List (String × Value) → Except Failure (List (String × Profile))
  | [] => .ok []
  | (name, v) :: r => do
    match v with
    | .object fields =>
      let p ← (Profile.checkFields fields).orFail .profile
      let rest ← profilesOf r
      pure ((name, p) :: rest)
    | v => .error (.misused (.notProfile v.kindWord))

/-- The fields of a top-level table, none if it is left out. -/
def tableOf (fields : Fields) (name use : String) : Except Failure Fields :=
  match fields.get? name with
  | none => .ok []
  | some (.object inner) => .ok inner
  | some v => .error (.notAble v.kindWord use)

def ofFields (fields : Fields) : Except Failure Config := do
  let profiles ← profilesOf (← tableOf fields "profiles" "items")
  let settings ← tableOf fields "push" "get"
  let lockGuard ← (settings.orElse "lock_guard" true checkFlag).orFail .config
  pure ⟨profiles, lockGuard⟩

/-- Reads the text of a configuration file in a directory, if there is one. -/
def read (directory : String) (text : Option String) : Except Failure Config :=
  match text with
  | none => .error (.noConfig directory)
  | some s => match Toml.document s with
    | .ok fields => ofFields fields
    | .error problem => .error (.badConfig problem)

def names (c : Config) : List String :=
  c.profiles.map (·.1)

end Config

end TableDraft
