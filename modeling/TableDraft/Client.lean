import TableDraft.Number.Decimal
import TableDraft.Text.Search
import TableDraft.Text.Utf8
import TableDraft.Value.Display

namespace TableDraft.Client
open TableDraft.Number TableDraft.Text

def schemes : List (List Char) :=
  ["mysql://".toList, "mariadb://".toList]

def driverScheme : List Char :=
  "mysql+aiomysql://".toList

/-- The URL with the scheme that names the driver. -/
def driverUrl (url : String) : String :=
  let s := url.toList
  match schemes.find? (·.isPrefixOf s) with
  | some p => String.ofList (driverScheme ++ s.drop p.length)
  | none => url

/-- Adds a time limit for connecting, unless the URL speaks of one. -/
def withTimeout (url : String) : String :=
  if occurs "connect_timeout".toList url.toList then url
  else url ++ (if url.toList.contains '?' then "&" else "?") ++ "connect_timeout=5"

/-- What a pool of connections is opened with. -/
structure Pool where
  url : String
  options : Fields

def standardOptions : Fields :=
  [("pool_size", .int 5), ("max_overflow", .int 10), ("pool_pre_ping", .bool true),
    ("pool_recycle", .int 300), ("echo", .bool false)]

/-- Names that stand for the pool and its URL, so that no option can have them. -/
def reservedNames : List String :=
  ["self", "database_url", "url"]

/-- Opens a pool unless one of the options has a reserved name. The caller's options go before the
standard ones. -/
def openPool? (url : String) (options : Fields) : Option Pool :=
  if options.any fun o => reservedNames.contains o.1 then none
  else some
    { url := withTimeout (driverUrl url)
      options := options.foldl (fun known o => known.put o.1 o.2) standardOptions }

structure Timestamp where
  year : Nat
  month : Nat
  day : Nat
  hour : Nat
  minute : Nat
  second : Nat
  microsecond : Nat
  /-- Minutes ahead of universal time, where a time zone is known. -/
  offset : Option Int

def padded (width n : Nat) : String :=
  let ds := (Nat.repr n).toList
  String.ofList (List.replicate (width - ds.length) '0' ++ ds)

def Timestamp.text (t : Timestamp) : String :=
  let date := padded 4 t.year ++ "-" ++ padded 2 t.month ++ "-" ++ padded 2 t.day
  let time := padded 2 t.hour ++ ":" ++ padded 2 t.minute ++ ":" ++ padded 2 t.second
  let fraction := if t.microsecond = 0 then "" else "." ++ padded 6 t.microsecond
  let zone := match t.offset with
    | some m =>
      (if m < 0 then "-" else "+") ++ padded 2 (m.natAbs / 60) ++ ":" ++ padded 2 (m.natAbs % 60)
    | none => ""
  date ++ "T" ++ time ++ fraction ++ zone

inductive Cell where
  | plain (v : Value)
  | bytes (bs : List UInt8)
  | decimal (d : Decimal)
  | timestamp (t : Timestamp)

/-- Why a decimal has no plain value. -/
inductive CellError where
  | infinite
  | signaling
  deriving DecidableEq

/-- A decimal that is a whole number becomes that number, and any other the nearest double. -/
def decimalValue (d : Decimal) : Except CellError Value :=
  match d with
  | .finite negative coefficient exponent =>
    match Decimal.whole? negative coefficient exponent with
    | some n => .ok (.int n)
    | none => .ok (.float (Binary64.ofDecimal negative coefficient exponent))
  | .nan => .ok (.float Binary64.nan)
  | .infinity _ => .error .infinite
  | .signalingNan => .error .signaling

def Cell.value (c : Cell) : Except CellError Value :=
  match c with
  | .plain v => .ok v
  | .bytes bs => .ok (.text (String.ofList (Utf8.decodeLossy bs)))
  | .decimal d => decimalValue d
  | .timestamp t => .ok (.text t.text)

/-- The cells of a row under their column names, as many as there are of both. Of a repeated name
the last cell is kept. -/
def namedCells (names : List String) (cells : List Cell) : List (String × Cell) :=
  (names.zip cells).foldl (fun known p =>
    if known.any (·.1 == p.1) then known.map fun q => if q.1 == p.1 then p else q
    else known ++ [p]) []

def rowValue (names : List String) (cells : List Cell) : Except CellError Value := do
  let fields ← (namedCells names cells).mapM fun p => do pure (p.1, ← p.2.value)
  pure (.object fields)

def rowValues (names : List String) (rows : List (List Cell)) : Except CellError (List Value) :=
  rows.mapM (rowValue names)

end TableDraft.Client
