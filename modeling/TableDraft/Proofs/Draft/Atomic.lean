import TableDraft.Proofs.Draft.Run

namespace TableDraft

/-- The working set before and after an edit that gives back what it made. An edit touches one
collection: it adds at the end, replaces in place, or takes away. -/
inductive Edit.Replaces (snapshot : Definition) : Edit → Made → Definition → Definition → Prop where
  | addColumn (a : NewColumn) (c : Column) (w : Definition) :
    Replaces snapshot (.addColumn a) (.column c) w { w with columns := w.columns ++ [c] }
  | updateColumn (id : Value) (changes : Fields) (c : Column) (w : Definition) :
    Replaces snapshot (.updateColumn id changes) (.column c) w
      { w with columns := w.columns.map fun d => if d.id.isValue id then c else d }
  | renameColumn (id name : Value) (c : Column) (w : Definition) :
    Replaces snapshot (.renameColumn id name) (.column c) w
      { w with columns := w.columns.map fun d => if d.id.isValue id then c else d }
  | dropColumn (id : Value) (w : Definition) :
    Replaces snapshot (.dropColumn id) .nothing w
      { w with columns := w.columns.filter fun c => !c.id.isValue id }
  | addIndex (name columns type : Value) (i : Index) (w : Definition) :
    Replaces snapshot (.addIndex name columns type) (.index i) w
      { w with indexes := w.indexes ++ [i] }
  | dropIndex (name : Value) (w : Definition) :
    Replaces snapshot (.dropIndex name) .nothing w
      { w with indexes := w.indexes.filter fun i => !name.isText i.name }
  | addForeignKey (name column table other : Value) (k : ForeignKey) (w : Definition) :
    Replaces snapshot (.addForeignKey name column table other) (.foreignKey k) w
      { w with foreignKeys := w.foreignKeys ++ [k] }
  | dropForeignKey (name : Value) (w : Definition) :
    Replaces snapshot (.dropForeignKey name) .nothing w
      { w with foreignKeys := w.foreignKeys.filter fun k => !name.isText k.constraintName }
  | addTrigger (name timing event body : Value) (t : Trigger) (w : Definition) :
    Replaces snapshot (.addTrigger name timing event body) (.trigger t) w
      { w with triggers := w.triggers ++ [t] }
  | dropTrigger (name : Value) (w : Definition) :
    Replaces snapshot (.dropTrigger name) .nothing w
      { w with triggers := w.triggers.filter fun t => !name.isText t.name }
  | discard (w : Definition) : Replaces snapshot .discard .nothing w snapshot

theorem Edit.Makes.replaces {snapshot w w' : Definition} {ids : IdSupply} {e : Edit} {m : Made}
    (h : e.Makes snapshot w ids m w') : e.Replaces snapshot m w w' := by
  cases h with
  | addColumn new => exact .addColumn _ _ _
  | updateColumn updated => exact .updateColumn _ _ _ _
  | renameColumn updated => exact .renameColumn _ _ _ _
  | dropColumn mem found => exact .dropColumn _ _
  | addIndex isName free formed => exact .addIndex _ _ _ _ _
  | dropIndex mem found => exact .dropIndex _ _
  | addForeignKey given filled free => exact .addForeignKey _ _ _ _ _ _
  | dropForeignKey mem found => exact .dropForeignKey _ _
  | addTrigger isName free => exact .addTrigger _ _ _ _ _ _
  | dropTrigger mem found => exact .dropTrigger _ _
  | discard => exact .discard _

/-- Whatever the draft is, and whatever values the arguments of the edit are: a failure leaves the draft
as it was, and success changes only the collection that the edit is about. -/
theorem Draft.apply_all_or_nothing (d : Draft) (ids : IdSupply) (e : Edit) :
    match (d.apply ids e).1 with
    | .error _ => (d.apply ids e).2.1 = d
    | .ok m => ∃ w, e.Replaces d.snapshot m d.working w ∧
        (d.apply ids e).2.1 = { d with working := w } := by
  obtain ⟨⟨f, hf⟩, hsame⟩ | ⟨m, w, hmakes, hm, hmade⟩ := d.apply_cases ids e
  · rw [hf]
    exact hsame
  · rw [hm]
    exact ⟨w, hmakes.replaces, hmade⟩

end TableDraft
