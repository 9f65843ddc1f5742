import TableDraft.Proofs.Definition.Keys
import TableDraft.Proofs.Draft.Makes

namespace TableDraft

namespace Edit.Makes

variable {snapshot w w' : Definition} {ids : IdSupply} {e : Edit} {m : Made}

theorem nodup_indexNames (h : e.Makes snapshot w ids m w') (hsnapshot : snapshot.indexNames.Nodup)
    (hw : w.indexNames.Nodup) : w'.indexNames.Nodup := by
  cases h with
  | addIndex isName free formed => exact nodup_map_concat hw free
  | dropIndex => exact nodup_map_filter hw _
  | discard => exact hsnapshot
  | _ => exact hw

theorem nodup_constraintNames (h : e.Makes snapshot w ids m w')
    (hsnapshot : snapshot.constraintNames.Nodup) (hw : w.constraintNames.Nodup) :
    w'.constraintNames.Nodup := by
  cases h with
  | addForeignKey given filled free => exact nodup_map_concat hw free
  | dropForeignKey => exact nodup_map_filter hw _
  | discard => exact hsnapshot
  | _ => exact hw

theorem nodup_triggerNames (h : e.Makes snapshot w ids m w')
    (hsnapshot : snapshot.triggerNames.Nodup) (hw : w.triggerNames.Nodup) :
    w'.triggerNames.Nodup := by
  cases h with
  | addTrigger isName free => exact nodup_map_concat hw free
  | dropTrigger => exact nodup_map_filter hw _
  | discard => exact hsnapshot
  | _ => exact hw

end Edit.Makes

namespace Draft

/-- The draft and the ids after several edits, of which some may fail. -/
def run (d : Draft) (ids : IdSupply) : List Edit → Draft × IdSupply
  | [] => (d, ids)
  | e :: r => run (d.apply ids e).2.1 (d.apply ids e).2.2 r

theorem run_append (d : Draft) (ids : IdSupply) (es fs : List Edit) :
    d.run ids (es ++ fs) = (d.run ids es).1.run (d.run ids es).2 fs := by
  induction es generalizing d ids with
  | nil => rfl
  | cons e r ih => exact ih (d.apply ids e).2.1 (d.apply ids e).2.2

/-- What every edit of a run preserves, the run preserves. -/
theorem run_induction {motive : Draft → Prop} {d : Draft} {es : List Edit}
    (hstep : ∀ d ids, ∀ e ∈ es, motive d → motive (d.apply ids e).2.1) (h : motive d)
    (ids : IdSupply) : motive (d.run ids es).1 := by
  induction es generalizing d ids with
  | nil => exact h
  | cons e r ih =>
    refine ih (fun d ids f hf => hstep d ids f (List.mem_cons_of_mem e hf)) ?_ _
    exact hstep d ids e List.mem_cons_self h

/-- Some column of the snapshot or of the working set has the id. -/
def Uses (d : Draft) (id : ColumnId) : Prop :=
  id ∈ d.snapshot.columnIds ∨ id ∈ d.working.columnIds

instance (d : Draft) (id : ColumnId) : Decidable (d.Uses id) :=
  inferInstanceAs (Decidable (_ ∨ _))

/-- No id is in use when an edit of the run takes it from the supply. -/
def TakesUnused (d : Draft) (ids : IdSupply) : List Edit → Prop
  | [] => True
  | e :: r =>
    ((d.apply ids e).2.2.issued ≠ ids.issued → ¬d.Uses ids.next) ∧
      TakesUnused (d.apply ids e).2.1 (d.apply ids e).2.2 r

instance decidableTakesUnused (d : Draft) (ids : IdSupply) :
    (es : List Edit) → Decidable (d.TakesUnused ids es)
  | [] => inferInstanceAs (Decidable True)
  | e :: r =>
    have := decidableTakesUnused (d.apply ids e).2.1 (d.apply ids e).2.2 r
    inferInstanceAs (Decidable (_ ∧ _))

theorem takesUnused_append {d : Draft} {ids : IdSupply} {es fs : List Edit} :
    d.TakesUnused ids (es ++ fs) ↔
      d.TakesUnused ids es ∧ (d.run ids es).1.TakesUnused (d.run ids es).2 fs := by
  induction es generalizing d ids with
  | nil => exact ⟨fun h => ⟨trivial, h⟩, And.right⟩
  | cons e r ih =>
    rw [List.cons_append, TakesUnused, TakesUnused, ih, and_assoc]
    rfl

/-- What every edit preserves that takes no id in use, a run of such edits preserves. -/
theorem run_induction_unused {motive : Draft → Prop} {d : Draft} {ids : IdSupply} {es : List Edit}
    (hstep : ∀ d ids, ∀ e ∈ es, motive d →
      ((d.apply ids e).2.2.issued ≠ ids.issued → ¬d.Uses ids.next) → motive (d.apply ids e).2.1)
    (h : motive d) (hfresh : d.TakesUnused ids es) : motive (d.run ids es).1 := by
  induction es generalizing d ids with
  | nil => exact h
  | cons e r ih =>
    refine ih (fun d ids f hf => hstep d ids f (List.mem_cons_of_mem e hf)) ?_ hfresh.2
    exact hstep d ids e List.mem_cons_self h hfresh.1

/-- An edit fails and changes nothing, or it makes a new working set. -/
theorem apply_cases (d : Draft) (ids : IdSupply) (e : Edit) :
    ((∃ f, (d.apply ids e).1 = .error f) ∧ (d.apply ids e).2.1 = d) ∨
      ∃ m w, e.Makes d.snapshot d.working ids m w ∧ (d.apply ids e).1 = .ok m ∧
        (d.apply ids e).2.1 = { d with working := w } := by
  cases h : (d.apply ids e).1 with
  | error f => exact .inl ⟨⟨f, rfl⟩, e.atomic_perform (d, ids) f h⟩
  | ok m =>
    obtain ⟨w, hmakes, hw⟩ := Edit.makes_of_perform (Prod.ext h rfl)
    exact .inr ⟨m, w, hmakes, rfl, hw⟩

@[simp] theorem snapshot_apply (d : Draft) (ids : IdSupply) (e : Edit) :
    (d.apply ids e).2.1.snapshot = d.snapshot := by
  obtain ⟨-, h⟩ | ⟨m, w, -, -, h⟩ := d.apply_cases ids e
  · rw [h]
  · rw [h]

/-- A run replaces the working set and nothing else. -/
theorem run_eq (d : Draft) (ids : IdSupply) (es : List Edit) :
    (d.run ids es).1 = { d with working := (d.run ids es).1.working } := by
  refine run_induction (motive := fun t => t = { d with working := t.working }) ?_ rfl ids
  intro t ids e _ ht
  obtain ⟨-, hsame⟩ | ⟨m, w, -, -, hmade⟩ := t.apply_cases ids e
  · rwa [hsame]
  · rw [hmade, ht]

theorem snapshot_run (d : Draft) (ids : IdSupply) (es : List Edit) :
    (d.run ids es).1.snapshot = d.snapshot := by
  rw [run_eq]

/-- What an edit gives back after others. -/
def outcome (d : Draft) (ids : IdSupply) (es : List Edit) (e : Edit) : Except Failure Made :=
  ((d.run ids es).1.apply (d.run ids es).2 e).1

theorem made_of_apply {d : Draft} {ids : IdSupply} {e : Edit} {m : Made}
    (h : (d.apply ids e).1 = .ok m) :
    ∃ w, e.Makes d.snapshot d.working ids m w ∧
      (d.apply ids e).2.1 = { d with working := w } := by
  obtain ⟨⟨f, hf⟩, -⟩ | ⟨n, w, hmakes, hn, hnew⟩ := d.apply_cases ids e
  · rw [h] at hf
    cases hf
  · rw [h] at hn
    cases hn
    exact ⟨w, hmakes, hnew⟩

/-- A new column takes one id from the supply, so that this id has to be unused. -/
theorem unused_of_addColumn {d : Draft} {ids : IdSupply} {a : NewColumn} {m : Made}
    (h : (d.apply ids (.addColumn a)).1 = .ok m)
    (hfresh : (d.apply ids (.addColumn a)).2.2.issued ≠ ids.issued → ¬d.Uses ids.next) :
    ¬d.Uses ids.next := by
  obtain ⟨fields, -, c, -, -, happly⟩ := Editing.addColumn_eq_ok.1 (Prod.ext h rfl)
  have htaken : (d.apply ids (.addColumn a)).2.2 = ids.advance := congrArg Prod.snd happly
  refine hfresh ?_
  rw [htaken]
  exact Nat.succ_ne_self ids.issued

end Draft

end TableDraft
