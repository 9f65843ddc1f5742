import TableDraft.Proofs.Draft.ColumnStatements
import TableDraft.Proofs.Draft.KeyUses
import TableDraft.Proofs.Draft.Rename
import TableDraft.Proofs.Plan.Parts

namespace TableDraft

namespace Edit

/-- The one part that the edit may change. Discarding changes them all. -/
def part? : Edit → Option Part
  | .addColumn _ | .updateColumn _ _ | .renameColumn _ _ | .dropColumn _ => some .columns
  | .addIndex _ _ _ | .dropIndex _ => some .indexes
  | .addForeignKey _ _ _ _ | .dropForeignKey _ => some .foreignKeys
  | .addTrigger _ _ _ _ | .dropTrigger _ => some .triggers
  | .discard => none

/-- The part to which the edit adds something. -/
def addsTo? : Edit → Option Part
  | .addColumn _ => some .columns
  | .addIndex _ _ _ => some .indexes
  | .addForeignKey _ _ _ _ => some .foreignKeys
  | .addTrigger _ _ _ _ => some .triggers
  | _ => none

def isOnOther (p : Part) (e : Edit) : Bool :=
  e.part?.any (· ≠ p)

/-- The edit updates or renames the column with this id. -/
def updatesColumn (i : ColumnId) : Edit → Bool
  | .updateColumn id _ | .renameColumn id _ => i.isValue id
  | _ => false

/-- The edit is about another part than what was made, or it updates the very column that was made. -/
def spares (e : Edit) : Made → Bool
  | .column c => e.isOnOther .columns || e.updatesColumn c.id
  | .index _ => e.isOnOther .indexes
  | .foreignKey _ => e.isOnOther .foreignKeys
  | .trigger _ => e.isOnOther .triggers
  | .nothing => false

theorem Makes.only_eq {snapshot w w' : Definition} {ids : IdSupply} {e : Edit} {m : Made} {p : Part}
    (h : e.Makes snapshot w ids m w') (he : e.isOnOther p = true) : w'.only p = w.only p := by
  cases h <;> cases p <;> first | rfl | cases he

end Edit

/-- The new list is the old one and an item with the key `k` behind it, which no other item has. -/
def GainedOne (key : α → β) (k : β) (old new : List α) : Prop :=
  (∃ x, new = old ++ [x] ∧ key x = k) ∧ ∀ b ∈ old, key b ≠ k

namespace GainedOne

variable {key : α → β} {k : β} {old new : List α} {named : α → Bool}

theorem exists_named (h : GainedOne key k old new) (hnamed : ∀ b, named b = true ↔ key b = k) :
    ∃ x ∈ new, named x = true := by
  obtain ⟨⟨x, rfl, hx⟩, -⟩ := h
  exact ⟨x, List.mem_append_right _ List.mem_cons_self, (hnamed x).2 hx⟩

theorem not_named (h : GainedOne key k old new) (hnamed : ∀ b, named b = true ↔ key b = k) {b : α}
    (hb : b ∈ old) : ¬named b = true := by
  rw [hnamed]
  exact h.2 b hb

/-- Without the items of this key the list is the old one. -/
theorem filter_eq (h : GainedOne key k old new) (hnamed : ∀ b, named b = true ↔ key b = k) :
    new.filter (fun b => !named b) = old := by
  have hkept : old.filter (fun b => !named b) = old := by
    rw [List.filter_eq_self]
    intro b hb
    rw [Bool.not_eq_true', Bool.eq_false_iff]
    exact h.not_named hnamed hb
  obtain ⟨⟨x, rfl, hx⟩, -⟩ := h
  rw [List.filter_append, hkept, List.filter_singleton, (hnamed x).2 hx]
  exact List.append_nil old

/-- An item may be put in the place of the new one. -/
theorem map (h : GainedOne key k old new) (hnamed : ∀ b, named b = true ↔ key b = k) {y : α}
    (hy : key y = k) : GainedOne key k old (new.map fun b => if named b then y else b) := by
  have hkept : old.map (fun b => if named b then y else b) = old :=
    (List.map_congr_left fun b hb => if_neg (h.not_named hnamed hb)).trans (List.map_id' old)
  obtain ⟨⟨x, rfl, hx⟩, hold⟩ := h
  refine ⟨⟨y, ?_, hy⟩, hold⟩
  rw [List.map_append, hkept, List.map_singleton, if_pos ((hnamed x).2 hx)]

end GainedOne

namespace Made

/-- The edit that drops what was made. -/
def removal? : Made → Option Edit
  | .column c => some (.dropColumn c.id.value)
  | .index i => some (.dropIndex (.text i.name))
  | .foreignKey k => some (.dropForeignKey (.text k.constraintName))
  | .trigger t => some (.dropTrigger (.text t.name))
  | .nothing => none

/-- In the part, `w` is `v` with one more item, which has the key of what was made. -/
inductive AddedTo (v w : Definition) : Part → Made → Prop where
  | column {c : Column} (h : GainedOne Column.id c.id v.columns w.columns) :
    AddedTo v w .columns (.column c)
  | index {i : Index} (h : GainedOne Index.name i.name v.indexes w.indexes) :
    AddedTo v w .indexes (.index i)
  | foreignKey {k : ForeignKey}
    (h : GainedOne ForeignKey.constraintName k.constraintName v.foreignKeys w.foreignKeys) :
    AddedTo v w .foreignKeys (.foreignKey k)
  | trigger {t : Trigger} (h : GainedOne Trigger.name t.name v.triggers w.triggers) :
    AddedTo v w .triggers (.trigger t)

variable {v w w' snapshot : Definition} {ids : IdSupply} {e : Edit} {m n : Made} {p : Part}

/-- An addition adds one item, whose key is free. The id of a column is not checked, but fresh. -/
theorem addedTo_of_makes (h : e.Makes snapshot w ids m w') (hpart : e.addsTo? = some p)
    (hfresh : p = .columns → ids.next ∉ w.columnIds) : m.AddedTo w w' p := by
  cases h with
  | addColumn new =>
    cases hpart
    refine .column ⟨⟨_, rfl, rfl⟩, ?_⟩
    rw [new.id]
    exact Definition.not_mem_columnIds.1 (hfresh rfl)
  | addIndex isName free formed =>
    cases hpart
    exact .index ⟨⟨_, rfl, rfl⟩, free⟩
  | addForeignKey given filled free =>
    cases hpart
    exact .foreignKey ⟨⟨_, rfl, rfl⟩, free⟩
  | addTrigger isName free =>
    cases hpart
    exact .trigger ⟨⟨_, rfl, rfl⟩, free⟩
  | _ => cases hpart

/-- Edits of other parts keep what was added, and so do updates of the added column. -/
theorem AddedTo.makes (h : m.AddedTo v w p) (hmakes : e.Makes snapshot w ids n w')
    (he : e.spares m = true) : m.AddedTo v w' p := by
  have hupdate : ∀ {c current new : Column} {id : Value},
      GainedOne Column.id c.id v.columns w.columns → Column.UpdatedIn w id current new →
      c.id.isValue id = true → GainedOne Column.id c.id v.columns (w.withColumn id new).columns := by
    intro c current new id h hnew hid
    refine h.map (fun b => ⟨fun hb => Mark.eq_of_isValue hb hid, fun hb => hb ▸ hid⟩) ?_
    rw [hnew.id]
    exact Mark.eq_of_isValue hnew.found hid
  cases h with
  | column h =>
    obtain he | he := Bool.or_eq_true_iff.1 he
    · exact .column (Definition.only_columns_inj.1 (hmakes.only_eq he) ▸ h)
    · cases hmakes with
      | updateColumn updated => exact .column (hupdate h updated he)
      | renameColumn updated => exact .column (hupdate h updated he)
      | _ => cases he
  | index h => exact .index (Definition.only_indexes_inj.1 (hmakes.only_eq he) ▸ h)
  | foreignKey h => exact .foreignKey (Definition.only_foreignKeys_inj.1 (hmakes.only_eq he) ▸ h)
  | trigger h => exact .trigger (Definition.only_triggers_inj.1 (hmakes.only_eq he) ▸ h)

end Made

namespace Draft

variable {d t : Draft} {ids : IdSupply} {p : Part}

/-- The statements of the plan that are about one part. -/
def statementsOn (d : Draft) (p : Part) : List String :=
  (d.steps.filter (·.part = p)).map Statement.text

theorem statements_eq_statementsOn (d : Draft) : d.plan.statements =
    d.statementsOn .columns ++ d.statementsOn .indexes ++ d.statementsOn .foreignKeys ++
      d.statementsOn .triggers := by
  simp only [statementsOn, statements_plan, steps, Diff.filter_steps, ← List.map_append,
    ← Diff.steps_eq_stepsOn]

theorem statementsOn_eq (hother : t = { d with working := t.working })
    (hpart : t.working.only p = d.working.only p) : t.statementsOn p = d.statementsOn p := by
  have hsteps : ∀ s : Draft, s.steps.filter (·.part = p) =
      (Diff.of (s.snapshot.only p) (s.working.only p)).stepsOn s.table p := by
    intro s
    rw [steps, Diff.filter_steps, Diff.stepsOn_only]
  rw [statementsOn, statementsOn, hsteps, hsteps, hpart, hother]

theorem drop_added {v : Definition} {m : Made} (h : m.AddedTo v d.working p) (ids : IdSupply) :
    ∃ drop w, m.removal? = some drop ∧
      d.apply ids drop = (.ok .nothing, { d with working := w }, ids) ∧ w.only p = v.only p := by
  have hid : ∀ (i : ColumnId) (b : Column), b.id.isValue i.value = true ↔ b.id = i :=
    fun i b => ⟨fun h => Mark.eq_of_isValue h i.isValue_value, fun h => h ▸ b.id.isValue_value⟩
  have hname : ∀ n s : String, (Value.text n).isText s = true ↔ s = n :=
    fun n s => beq_iff_eq
  cases h with
  | @column c h =>
    obtain ⟨b, hb, hfound⟩ := h.exists_named (hid c.id)
    obtain ⟨b, hb⟩ := Edit.findColumn_of_mem hb hfound
    refine ⟨_, _, rfl, (Editing.check_replace_eq_ok (s := (d, ids))).2 ⟨b, hb, rfl, rfl⟩, ?_⟩
    exact Definition.only_columns_inj.2 (h.filter_eq (hid c.id))
  | @index i h =>
    have hnamed := fun j : Index => hname i.name j.name
    refine ⟨_, _, rfl, (Editing.require_replace_eq_ok (s := (d, ids))).2
      ⟨h.exists_named hnamed, rfl, rfl⟩, ?_⟩
    exact Definition.only_indexes_inj.2 (h.filter_eq hnamed)
  | @foreignKey k h =>
    have hnamed := fun j : ForeignKey => hname k.constraintName j.constraintName
    refine ⟨_, _, rfl, (Editing.require_replace_eq_ok (s := (d, ids))).2
      ⟨h.exists_named hnamed, rfl, rfl⟩, ?_⟩
    exact Definition.only_foreignKeys_inj.2 (h.filter_eq hnamed)
  | @trigger g h =>
    have hnamed := fun j : Trigger => hname g.name j.name
    refine ⟨_, _, rfl, (Editing.require_replace_eq_ok (s := (d, ids))).2
      ⟨h.exists_named hnamed, rfl, rfl⟩, ?_⟩
    exact Definition.only_triggers_inj.2 (h.filter_eq hnamed)

/-- Whatever is edited in the meantime in other parts of the table, and however a new column is updated:
dropping what an addition gave back succeeds, and the part is again what it was, with the same
statements in the plan. -/
theorem drop_undoes_add {add : Edit} {m : Made} {es : List Edit} (hpart : add.addsTo? = some p)
    (hadd : (d.apply ids add).1 = .ok m) (hfresh : d.TakesUnused ids [add])
    (hes : ∀ e ∈ es, e.spares m = true) :
    ∃ drop, m.removal? = some drop ∧ d.outcome ids (add :: es) drop = .ok .nothing ∧
      let t := (d.run ids (add :: es ++ [drop])).1
      t.working.only p = d.working.only p ∧ t.statementsOn p = d.statementsOn p := by
  obtain ⟨w, hmakes, hmade⟩ := made_of_apply hadd
  have hunused : p = .columns → ids.next ∉ d.working.columnIds := by
    rintro rfl
    cases hmakes with
    | addColumn new => exact (not_or.1 (unused_of_addColumn hadd hfresh.1)).2
    | _ => cases hpart
  have hadded : m.AddedTo d.working (d.run ids (add :: es)).1.working p := by
    refine run_induction (d := (d.apply ids add).2.1)
      (motive := fun t => m.AddedTo d.working t.working p) ?_ ?_ (d.apply ids add).2.2
    · intro t ids e he ht
      obtain ⟨-, hsame⟩ | ⟨n, w, hmakes, -, hmade⟩ := t.apply_cases ids e
      · rwa [hsame]
      · rw [hmade]
        exact ht.makes hmakes (hes e he)
    · rw [hmade]
      exact Made.addedTo_of_makes hmakes hpart hunused
  obtain ⟨drop, w, hdrop, happly, honly⟩ := drop_added hadded (d.run ids (add :: es)).2
  have hdropped : (d.run ids (add :: es ++ [drop])).1 =
      { (d.run ids (add :: es)).1 with working := w } := by
    rw [run_append]
    exact congrArg (·.2.1) happly
  refine ⟨drop, hdrop, congrArg Prod.fst happly, ?_, statementsOn_eq (run_eq _ _ _) ?_⟩
  · rw [hdropped]
    exact honly
  · rw [hdropped]
    exact honly

/-- A new column that is renamed and updated, with an index and a foreign key on it and with edits that
fail. -/
theorem drop_undoes_add_renamed :
    let a : Column := ⟨.number 1, "a", some "a", "int", none, none, true, false, false, false⟩
    let d := start "shop" "t" ⟨[a], [⟨"i", "INDEX", false, ["a"]⟩], [], []⟩
    let ids : IdSupply := ⟨fun n => "#" ++ toString n, 0⟩
    let add := Edit.addColumn ⟨.text " b", .text "int", .null, .null, .bool true, .bool false,
      .bool false, .bool true⟩
    let b : Column := ⟨.word "#1", "b", some "b", "INT", none, none, true, false, false, true⟩
    let es := [Edit.renameColumn (.text "#1") (.text "c"),
      .addIndex (.text "j") (.text "c") (.text "index"),
      .updateColumn (.text "#1") [("unique", .bool false), ("data_type", .text "bigint")],
      .updateColumn (.text "#1") [("nullable", .text "perhaps")], .dropIndex (.text "i"),
      .addForeignKey (.text "f") (.text "c") (.text "u") (.text "x"), .dropForeignKey (.text "g")]
    (d.apply ids add).1 = .ok (.column b) ∧
      d.outcome ids (add :: es) (.dropColumn (.text "#1")) = .ok .nothing ∧
      (d.run ids (add :: es ++ [.dropColumn (.text "#1")])).1.working.columns = [a] := by
  intro a d ids add b es
  have hadd : (d.apply ids add).1 = .ok (.column b) := by
    decide +kernel
  have hes : ∀ e ∈ es, e.spares (.column b) = true := by
    decide +kernel
  obtain ⟨drop, hdrop, hok, honly, -⟩ :=
    drop_undoes_add (p := .columns) rfl hadd (by decide +kernel) hes
  obtain rfl : Edit.dropColumn (.text "#1") = drop := Option.some.inj hdrop
  exact ⟨hadd, hok, Definition.only_columns_inj.1 honly⟩

end Draft

end TableDraft
