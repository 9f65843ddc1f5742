import TableDraft.Value

namespace TableDraft.Toml

/-- How a table came to be: on the way to another one, by its own header, or by the dotted keys of
a section. -/
inductive Origin where
  | passing
  | declared
  | dotted (chapter : Nat)
  deriving DecidableEq

/-- A value is closed for good. Of a list of tables, the last one is open. -/
inductive Node where
  | leaf (v : Value)
  | table (origin : Origin) (entries : List (String × Node))
  | tables (items : List (List (String × Node)))

abbrev Entries := List (String × Node)

/-- Replaces the node of a key, or adds it at the end. -/
def setEntry (key : String) (node : Node) : Entries → Entries
  | [] => [(key, node)]
  | (k, n) :: r => if k = key then (k, node) :: r else (k, n) :: setEntry key node r

/-- Applies `f` to the last of several tables. -/
def onLast (f : Entries → Option Entries) : List Entries → Option (List Entries)
  | [] => none
  | [e] => (f e).map fun e' => [e']
  | e :: e' :: r => (onLast f (e' :: r)).map (e :: ·)

/-- Applies `f` to the table at a path that headers spell; tables on the way are made if need be. -/
def atPath (f : Entries → Option Entries) : (path : List String) → Entries → Option Entries
  | [], entries => f entries
  | key :: rest, entries =>
    match entries.lookup key with
    | none => (atPath f rest []).map fun e => setEntry key (.table .passing e) entries
    | some (.leaf _) => none
    | some (.table origin inner) =>
      (atPath f rest inner).map fun e => setEntry key (.table origin e) entries
    | some (.tables items) =>
      (onLast (atPath f rest) items).map fun es => setEntry key (.tables es) entries

/-- Declares a table by its header, which may be done once. -/
def declare (key : String) (entries : Entries) : Option Entries :=
  match entries.lookup key with
  | none => some (setEntry key (.table .declared []) entries)
  | some (.table .passing inner) => some (setEntry key (.table .declared inner) entries)
  | _ => none

/-- Adds a table to a list of tables, or starts the list. -/
def appendTable (key : String) (entries : Entries) : Option Entries :=
  match entries.lookup key with
  | none => some (setEntry key (.tables [[]]) entries)
  | some (.tables items) => some (setEntry key (.tables (items ++ [[]])) entries)
  | _ => none

/-- Sets a value under a dotted key. The tables its first parts name belong to the chapter. -/
def assign (chapter : Nat) (stem : String) (v : Value) : (parents : List String) → Entries →
    Option Entries
  | [], entries =>
    match entries.lookup stem with
    | none => some (entries ++ [(stem, .leaf v)])
    | some _ => none
  | key :: rest, entries =>
    match entries.lookup key with
    | none =>
      (assign chapter stem v rest []).map fun e => setEntry key (.table (.dotted chapter) e) entries
    | some (.table origin inner) =>
      if origin = .passing ∨ origin = .dotted chapter then
        (assign chapter stem v rest inner).map fun e =>
          setEntry key (.table (.dotted chapter) e) entries
      else none
    | _ => none

mutual

def Node.value : Node → Value
  | .leaf v => v
  | .table _ entries => .object (entriesFields entries)
  | .tables items => .list (itemValues items)

def entriesFields : List (String × Node) → List (String × Value)
  | [] => []
  | (k, n) :: r => (k, n.value) :: entriesFields r

def itemValues : List (List (String × Node)) → List Value
  | [] => []
  | e :: r => .object (entriesFields e) :: itemValues r

end

end TableDraft.Toml
