import Mathlib.Data.List.TakeWhile
import TableDraft.Proofs.Fields
import TableDraft.Json.Reader
import TableDraft.Proofs.Number.Digits

namespace TableDraft
open TableDraft.Number TableDraft.Text

/-- The whole numbers in a value have at most `longest` digits. -/
inductive Value.IsShort (longest : Nat) : Value → Prop where
  | null : IsShort longest .null
  | bool (b : Bool) : IsShort longest (.bool b)
  | int {n : Int} (h : n.natAbs < digitBound longest) : IsShort longest (.int n)
  | float (x : Binary64) : IsShort longest (.float x)
  | text (s : String) : IsShort longest (.text s)
  | moment (s : String) : IsShort longest (.moment s)
  | list {items : List Value} (h : ∀ v ∈ items, IsShort longest v) : IsShort longest (.list items)
  | object {fields : Fields} (h : ∀ f ∈ fields, IsShort longest f.2) :
    IsShort longest (.object fields)

namespace Json

variable {longest : Nat}

theorem isShort_of_word? {s r : List Char} {v : Value} (h : word? s = some (v, r)) :
    v.IsShort longest := by
  obtain ⟨w, hw, hfound⟩ := List.exists_of_findSome?_eq_some h
  have hv : w.2 = v := by
    obtain ⟨t, -, ht⟩ := Option.map_eq_some_iff.1 hfound
    exact congrArg Prod.fst ht
  subst hv
  simp only [wordValues, List.mem_cons, List.not_mem_nil, or_false] at hw
  obtain rfl | rfl | rfl | rfl | rfl | rfl := hw
  · exact .bool true
  · exact .bool false
  · exact .null
  all_goals exact .float _

theorem isShort_of_unsigned? {negative : Bool} {s r : List Char} {v : Value}
    (h : unsigned? longest negative s = some (v, r)) : v.IsShort longest := by
  unfold unsigned? at h
  dsimp only at h
  split at h
  · cases h
  split at h
  · cases h
  next hlength =>
    simp only [Option.bind_eq_bind, Option.bind_eq_some_iff] at h
    obtain ⟨⟨fraction, s₁⟩, -, ⟨exponent, s₂⟩, -, h⟩ := h
    dsimp only at h
    -- a whole number has neither fraction nor exponent, so its digits are all there are
    split at h
    · obtain ⟨rfl, -⟩ := Prod.mk.inj (Option.some.inj h)
      refine .int ?_
      rw [natAbs_withSign]
      exact (digitsValue_lt fun _ => List.mem_takeWhile_imp).trans_le
        (digitBound_mono (Nat.le_of_not_lt hlength))
    · obtain ⟨rfl, -⟩ := Prod.mk.inj (Option.some.inj h)
      exact .float _

theorem isShort_of_number? {s r : List Char} {v : Value} (h : number? longest s = some (v, r)) :
    v.IsShort longest := by
  unfold number? at h
  split at h <;> exact isShort_of_unsigned? h

theorem isShort_put {fields : Fields} (h : ∀ f ∈ fields, f.2.IsShort longest) (name : String)
    {v : Value} (hv : v.IsShort longest) : ∀ f ∈ fields.put name v, f.2.IsShort longest := by
  intro f hf
  obtain ⟨hf, -⟩ | rfl := Fields.mem_put.1 hf
  · exact h f hf
  · exact hv

/-- What a reader gives is short, with so many calls. -/
structure ReadsShort (longest fuel : Nat) : Prop where
  value {depth : Nat} {s r : List Char} {v : Value} :
    value? longest fuel depth s = some (v, r) → v.IsShort longest
  items {depth : Nat} {s r : List Char} {items : List Value} :
    items? longest fuel depth s = some (items, r) → ∀ v ∈ items, v.IsShort longest
  members {depth : Nat} {known fields : Fields} {s r : List Char} :
    (∀ f ∈ known, f.2.IsShort longest) → members? longest fuel depth known s = some (fields, r) →
      ∀ f ∈ fields, f.2.IsShort longest

namespace ReadsShort

variable {fuel depth : Nat} {s r : List Char}

theorem value_succ (ih : ReadsShort longest fuel) {v : Value}
    (h : value? longest (fuel + 1) depth s = some (v, r)) : v.IsShort longest := by
  rw [value?] at h
  split at h
  · obtain ⟨p, -, hp⟩ := Option.map_eq_some_iff.1 h
    cases hp
    exact .text _
  · split at h
    · cases h
      exact .list (List.forall_mem_nil _)
    · cases depth with
      | zero => cases h
      | succ depth =>
        obtain ⟨⟨items, t⟩, hread, hp⟩ := Option.map_eq_some_iff.1 h
        cases hp
        exact .list (ih.items hread)
  · split at h
    · cases h
      exact .object (List.forall_mem_nil _)
    · cases depth with
      | zero => cases h
      | succ depth =>
        obtain ⟨⟨fields, t⟩, hread, hp⟩ := Option.map_eq_some_iff.1 h
        cases hp
        exact .object (ih.members (List.forall_mem_nil _) hread)
  · split at h
    next p hword =>
      cases h
      exact isShort_of_word? hword
    · exact isShort_of_number? h

theorem items_succ (ih : ReadsShort longest fuel) {items : List Value}
    (h : items? longest (fuel + 1) depth s = some (items, r)) : ∀ v ∈ items, v.IsShort longest := by
  rw [items?] at h
  split at h
  · cases h
  next v t hread =>
    have hv := ih.value hread
    split at h
    · obtain ⟨⟨rest, t'⟩, hrest, hp⟩ := Option.map_eq_some_iff.1 h
      cases hp
      exact List.forall_mem_cons.2 ⟨hv, ih.items hrest⟩
    · cases h
      exact List.forall_mem_singleton.2 hv
    · cases h

theorem members_succ (ih : ReadsShort longest fuel) {known fields : Fields}
    (hknown : ∀ f ∈ known, f.2.IsShort longest)
    (h : members? longest (fuel + 1) depth known s = some (fields, r)) :
    ∀ f ∈ fields, f.2.IsShort longest := by
  rw [members?] at h
  split at h
  · split at h
    · cases h
    next key t hkey =>
      split at h
      · split at h
        · cases h
        next v t' hread =>
          have hfound := isShort_put hknown (String.ofList key) (ih.value hread)
          dsimp only at h
          split at h
          · exact ih.members hfound h
          · cases h
            exact hfound
          · cases h
      · cases h
  · cases h

end ReadsShort

theorem readsShort (longest fuel : Nat) : ReadsShort longest fuel := by
  induction fuel with
  | zero => exact ⟨nofun, nofun, fun _ => nofun⟩
  | succ fuel ih => exact ⟨ih.value_succ, ih.items_succ, ih.members_succ⟩

theorem isShort_of_document? {text : String} {v : Value} (h : document? text = some v) :
    v.IsShort digitLimit := by
  unfold document? read? at h
  split at h
  next w r hread =>
    split at h
    · cases h
      exact (readsShort _ _).value hread
    · cases h
  · cases h

end Json

end TableDraft
