import TableDraft.Column

namespace TableDraft

structure ColumnMatch where
  added : List Column
  removed : List Column
  matched : List (Column × Column)
  deriving DecidableEq

namespace ColumnMatch

/-- The snapshot column with the id of `c`, the last one where ids repeat. -/
def counterpart? (snapshot : List Column) (c : Column) : Option Column :=
  snapshot.reverse.find? (·.id = c.id)

theorem counterpart?_eq_some {snapshot : List Column} {c b : Column}
    (h : counterpart? snapshot c = some b) : b ∈ snapshot ∧ b.id = c.id := by
  unfold counterpart? at h
  exact ⟨by simpa using List.mem_of_find?_eq_some h, by simpa using List.find?_some h⟩

@[simp] theorem counterpart?_eq_none_iff {snapshot : List Column} {c : Column} :
    counterpart? snapshot c = none ↔ ∀ b ∈ snapshot, b.id ≠ c.id := by
  simp [counterpart?]

/-- Added and matched columns come in working order, removed ones in snapshot order. -/
def of (snapshot working : List Column) : ColumnMatch :=
  { added := working.filter fun c => (counterpart? snapshot c).isNone
    removed := snapshot.filter fun b => !working.any (·.id = b.id)
    matched := working.filterMap fun c => (counterpart? snapshot c).map (·, c) }

end ColumnMatch

/-- The difference of two named collections. Items of one name count as one item, whatever else
they hold. -/
structure NameMatch (α : Type) where
  added : List α
  removed : List α
  deriving DecidableEq

namespace NameMatch

def of (name : α → String) (snapshot working : List α) : NameMatch α :=
  { added := working.filter fun w => !snapshot.any (name · = name w)
    removed := snapshot.filter fun s => !working.any (name · = name s) }

@[simp] theorem mem_added {name : α → String} {snapshot working : List α} {x : α} :
    x ∈ (of name snapshot working).added ↔ x ∈ working ∧ ∀ s ∈ snapshot, name s ≠ name x := by
  simp [of]

@[simp] theorem mem_removed {name : α → String} {snapshot working : List α} {x : α} :
    x ∈ (of name snapshot working).removed ↔ x ∈ snapshot ∧ ∀ w ∈ working, name w ≠ name x := by
  simp [of]

def isEmpty (m : NameMatch α) : Bool :=
  m.added.isEmpty && m.removed.isEmpty

end NameMatch

end TableDraft
