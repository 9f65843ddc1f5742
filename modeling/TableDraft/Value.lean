import TableDraft.Number.Binary64

namespace TableDraft

/-- A value that was not checked yet, from a file, a catalog row or a caller. Bytes, tuples, sets and
objects of other classes are left out. -/
inductive Value where
  | null
  | bool (b : Bool)
  | int (n : Int)
  | float (x : Number.Binary64)
  | text (s : String)
  /-- A date or a time, by its text. -/
  | moment (s : String)
  | list (items : List Value)
  | object (fields : List (String × Value))

/-- Named values in order, each name once. -/
abbrev Fields := List (String × Value)

namespace Fields

def get? (fields : Fields) (name : String) : Option Value :=
  fields.lookup name

def replace (fields : Fields) (name : String) (v : Value) : Fields :=
  fields.map fun f => if f.1 = name then (name, v) else f

/-- Replaces the value of a name where it stands, or adds the name at the end. -/
def put (fields : Fields) (name : String) (v : Value) : Fields :=
  if fields.any (·.1 == name) then fields.replace name v else fields ++ [(name, v)]

def erase (fields : Fields) (name : String) : Fields :=
  fields.filter (·.1 != name)

def ofList (pairs : List (String × Value)) : Fields :=
  pairs.foldl (fun fields p => put fields p.1 p.2) []

theorem get?_replace_self {fields : Fields} {name : String} (v : Value)
    (h : fields.any (·.1 == name) = true) : (fields.replace name v).get? name = some v := by
  unfold get? replace
  induction fields with
  | nil => cases h
  | cons f r ih =>
    obtain ⟨own, w⟩ := f
    by_cases hf : own = name
    · simp [hf]
    · have hn : (name == own) = false := beq_false_of_ne (Ne.symm hf)
      have hr : r.any (·.1 == name) = true := by simpa [hf] using h
      simp [hf, List.lookup_cons, hn, ih hr]

theorem get?_replace_of_ne (fields : Fields) {name other : String} (v : Value) (h : other ≠ name) :
    (fields.replace name v).get? other = fields.get? other := by
  unfold get? replace
  induction fields with
  | nil => rfl
  | cons f r ih =>
    obtain ⟨own, w⟩ := f
    by_cases hf : own = name
    · have hn : (other == name) = false := beq_false_of_ne h
      simp [List.lookup_cons, hn, ih, hf]
    · simp only [List.map_cons, if_neg hf, List.lookup_cons, ih]

theorem get?_eq_none {fields : Fields} {name : String} (h : fields.any (·.1 == name) = false) :
    fields.get? name = none := by
  unfold get?
  induction fields with
  | nil => rfl
  | cons f r ih =>
    obtain ⟨own, w⟩ := f
    rw [List.any_cons, Bool.or_eq_false_iff] at h
    have hn : (name == own) = false := beq_false_of_ne (Ne.symm (ne_of_beq_false h.1))
    simp [List.lookup_cons, hn, ih h.2]

@[simp] theorem get?_put_self (fields : Fields) (name : String) (v : Value) :
    (fields.put name v).get? name = some v := by
  unfold put
  split
  next h => exact get?_replace_self v h
  next h =>
    have hn := get?_eq_none (Bool.eq_false_iff.2 h)
    unfold get? at *
    simp [List.lookup_append, hn]

theorem get?_put_of_ne (fields : Fields) {name other : String} (v : Value) (h : other ≠ name) :
    (fields.put name v).get? other = fields.get? other := by
  unfold put
  split
  · exact get?_replace_of_ne fields v h
  · simp [get?, List.lookup_append, List.lookup_cons, beq_false_of_ne h]

end Fields

namespace Value

/-- False for nothing, zero and whatever is empty. -/
def isTruthy : Value → Bool
  | null => false
  | bool b => b
  | int n => n != 0
  | float x => !x.isZero
  | text s => s != ""
  | moment _ => true
  | list items => !items.isEmpty
  | object fields => !fields.isEmpty

def text? : Value → Option String
  | text s => some s
  | _ => none

/-- Whether a value is this very text. -/
def isText (s : String) : Value → Bool
  | text t => s == t
  | _ => false

def ofText? (s : Option String) : Value :=
  (s.map text).getD null

def isNull : Value → Bool
  | null => true
  | _ => false

end Value

end TableDraft
