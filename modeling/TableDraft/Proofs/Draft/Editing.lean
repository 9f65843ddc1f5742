import TableDraft.Draft.Apply
import TableDraft.Proofs.Checked

namespace TableDraft.Editing

variable {x : Editing α} {f : α → Editing β} {s t : Draft × IdSupply}

theorem ofExcept_apply (e : Except Failure α) (s : Draft × IdSupply) :
    ofExcept e s = (e, s) := by
  cases e <;> rfl

theorem working_bind (f : Definition → Editing β) (s : Draft × IdSupply) :
    (working >>= f) s = f s.1.working s := rfl

theorem takeId_bind (f : ColumnId → Editing β) (s : Draft × IdSupply) :
    (takeId >>= f) s = f s.2.next (s.1, s.2.advance) := rfl

theorem replace_pure_eq_ok {w : Definition} {m m' : Made} :
    (do replace w; pure m) s = (.ok m', t) ↔ m' = m ∧ t = ({ s.1 with working := w }, s.2) := by
  show (Except.ok m, ({ s.1 with working := w }, s.2)) = (Except.ok m', t) ↔ _
  rw [Prod.mk.injEq, Except.ok.injEq]
  exact and_congr eq_comm eq_comm

theorem ofExcept_bind_eq_ok {e : Except Failure α} {b : β} :
    (ofExcept e >>= f) s = (.ok b, t) ↔ ∃ a, e = .ok a ∧ f a s = (.ok b, t) := by
  rw [bind_apply, ofExcept_apply]
  cases e with
  | error g => exact iff_of_false nofun fun ⟨_, h, _⟩ => nomatch h
  | ok a => exact ⟨fun h => ⟨a, rfl, h⟩, fun ⟨_, rfl, h⟩ => h⟩

/-- Most edits check their arguments against the working set and then replace it. -/
theorem check_replace_eq_ok {check : Definition → Except Failure α} {new : Definition → α → Definition}
    {made : α → Made} {m : Made} :
    (do let w ← working; let a ← ofExcept (check w); replace (new w a); pure (made a)) s = (.ok m, t) ↔
      ∃ a, check s.1.working = .ok a ∧ m = made a ∧
        t = ({ s.1 with working := new s.1.working a }, s.2) := by
  rw [working_bind, ofExcept_bind_eq_ok]
  exact exists_congr fun a => and_congr_right fun _ => replace_pure_eq_ok

theorem require_replace_eq_ok {items : Definition → List α} {named : α → Bool}
    {missing : EditError} {new : Definition → Definition} {m m' : Made} :
    (do let w ← working; require ((items w).any named) missing; replace (new w); pure m) s =
        (.ok m', t) ↔
      (∃ i ∈ items s.1.working, named i = true) ∧ m' = m ∧
        t = ({ s.1 with working := new s.1.working }, s.2) := by
  rw [working_bind, require, ofExcept_bind_eq_ok, ← List.any_eq_true, replace_pure_eq_ok]
  cases (items s.1.working).any named with
  | false => exact iff_of_false (fun ⟨_, h, _⟩ => nomatch h) fun h => nomatch h.1
  | true => exact ⟨fun ⟨_, _, h⟩ => ⟨rfl, h⟩, fun h => ⟨(), rfl, h.2⟩⟩

theorem addColumn_eq_ok {a : NewColumn} {m : Made} :
    addColumn a s = (.ok m, t) ↔ ∃ fields, s.1.working.newColumnFields a = .ok fields ∧
      ∃ c, Column.checkFields s.2.next fields = .good c ∧ m = .column c ∧
        t = ({ s.1 with working.columns := s.1.working.columns ++ [c] }, s.2.advance) := by
  unfold addColumn
  rw [working_bind, ofExcept_bind_eq_ok]
  refine exists_congr fun fields => and_congr_right fun _ => ?_
  rw [takeId_bind, ofExcept_bind_eq_ok]
  exact exists_congr fun c => and_congr Checked.orFail_eq_ok replace_pure_eq_ok

/-- Whatever comes of the steps, the draft is as before. -/
def Checks (x : Editing α) : Prop :=
  ∀ s, (x s).2.1 = s.1

/-- If the steps fail, the draft is as before. -/
def Atomic (x : Editing α) : Prop :=
  ∀ s g, (x s).1 = .error g → (x s).2.1 = s.1

theorem checks_working : Checks working :=
  fun _ => rfl

theorem checks_takeId : Checks takeId :=
  fun _ => rfl

theorem checks_ofExcept (e : Except Failure α) : Checks (ofExcept e) := by
  intro s
  rw [ofExcept_apply]

theorem checks_require (found : Bool) (missing : EditError) : Checks (require found missing) :=
  checks_ofExcept _

theorem Checks.bind_atomic (hx : Checks x) (hf : ∀ a, Atomic (f a)) : Atomic (x >>= f) := by
  intro s g h
  rw [bind_apply] at h ⊢
  have hs := hx s
  cases hxs : x s with
  | mk result t =>
    rw [hxs] at h hs
    cases result with
    | error e => exact hs
    | ok a => exact (hf a t g h).trans hs

theorem atomic_replace (w : Definition) (m : Made) :
    Atomic (do replace w; pure m) :=
  fun _ _ h => nomatch h

theorem atomic_check_replace (check : Definition → Except Failure α)
    (new : Definition → α → Definition) (made : α → Made) :
    Atomic (do let w ← working; let a ← ofExcept (check w); replace (new w a); pure (made a)) :=
  checks_working.bind_atomic fun _ => (checks_ofExcept _).bind_atomic fun _ => atomic_replace _ _

theorem atomic_require_replace (found : Definition → Bool) (missing : EditError)
    (new : Definition → Definition) (m : Made) :
    Atomic (do let w ← working; require (found w) missing; replace (new w); pure m) :=
  checks_working.bind_atomic fun _ => (checks_require _ _).bind_atomic fun _ => atomic_replace _ _

theorem atomic_addColumn (a : NewColumn) : Atomic (addColumn a) := by
  unfold addColumn
  refine checks_working.bind_atomic fun w => ?_
  refine (checks_ofExcept _).bind_atomic fun fields => ?_
  refine checks_takeId.bind_atomic fun id => ?_
  exact (checks_ofExcept _).bind_atomic fun c => atomic_replace _ _

theorem atomic_discard : Atomic discard :=
  fun _ _ h => nomatch h

end TableDraft.Editing

namespace TableDraft
open Editing

/-- Every edit makes all its checks before it replaces anything. -/
theorem Edit.atomic_perform (e : Edit) : Atomic e.perform := by
  cases e with
  | addColumn a => exact atomic_addColumn a
  | updateColumn id changes => exact atomic_check_replace (·.updatedColumn id changes) _ _
  | renameColumn id name => exact atomic_check_replace (·.updatedColumn id [("name", name)]) _ _
  | dropColumn id => exact atomic_check_replace (findColumn · id) _ _
  | addIndex name columns type => exact atomic_check_replace (·.newIndex name columns type) _ _
  | dropIndex name => exact atomic_require_replace _ _ _ _
  | addForeignKey name column table other =>
    exact atomic_check_replace (·.newForeignKey name column table other) _ _
  | dropForeignKey name => exact atomic_require_replace _ _ _ _
  | addTrigger name timing event body =>
    exact atomic_check_replace (·.newTrigger name timing event body) _ _
  | dropTrigger name => exact atomic_require_replace _ _ _ _
  | discard => exact atomic_discard

end TableDraft
