import TableDraft.Proofs.Column.Check
import TableDraft.Proofs.Draft.Editing
import TableDraft.Proofs.Index.Group
import TableDraft.Proofs.Text.Trim

namespace TableDraft
open TableDraft.Text

theorem ForeignKey.checkFields_eq_good {fields : Fields} {k : ForeignKey} :
    checkFields fields = .good k ↔
      fields.get? "constraint_name" = some (.text k.constraintName) ∧
      fields.get? "column_name" = some (.text k.columnName) ∧
      fields.get? "referenced_table" = some (.text k.referencedTable) ∧
      fields.get? "referenced_column" = some (.text k.referencedColumn) := by
  simp only [checkFields, Checked.seq_eq_good, Checked.map_eq_good, Fields.requiredText_eq_good]
  constructor
  · rintro ⟨_, other, ⟨_, table, ⟨_, column, ⟨name, hname, rfl⟩, hcolumn, rfl⟩, htable, rfl⟩,
      hother, rfl⟩
    exact ⟨hname, hcolumn, htable, hother⟩
  · rintro ⟨hname, hcolumn, htable, hother⟩
    exact ⟨_, _, ⟨_, _, ⟨_, _, ⟨_, hname, rfl⟩, hcolumn, rfl⟩, htable, rfl⟩, hother, rfl⟩

theorem Trigger.checkFields_eq_good {fields : Fields} {t : Trigger} :
    checkFields fields = .good t ↔
      fields.get? "name" = some (.text t.name) ∧ fields.get? "timing" = some (.text t.timing) ∧
      fields.get? "event" = some (.text t.event) ∧
      fields.orElse "body" "" checkText = .good t.body := by
  simp only [checkFields, Checked.seq_eq_good, Checked.map_eq_good, Fields.requiredText_eq_good]
  constructor
  · rintro ⟨_, body, ⟨_, event, ⟨_, timing, ⟨name, hname, rfl⟩, htiming, rfl⟩, hevent, rfl⟩, hbody,
      rfl⟩
    exact ⟨hname, htiming, hevent, hbody⟩
  · rintro ⟨hname, htiming, hevent, hbody⟩
    exact ⟨_, _, ⟨_, _, ⟨_, _, ⟨_, hname, rfl⟩, htiming, rfl⟩, hevent, rfl⟩, hbody, rfl⟩

/-- At most one mark is the value. -/
theorem Mark.eq_of_isValue {a b : Mark} {v : Value} (ha : a.isValue v = true)
    (hb : b.isValue v = true) : a = b := by
  cases a <;> cases b <;> cases v <;> simp_all [isValue]

/-- The name is trimmed and not empty. -/
def IsName (s : String) : Prop :=
  trimmed s = s ∧ s ≠ ""

instance (s : String) : Decidable (IsName s) :=
  inferInstanceAs (Decidable (_ ∧ _))

/-- A column as an edit of `w` adds it. -/
structure Column.NewIn (w : Definition) (ids : IdSupply) (c : Column) : Prop where
  id : c.id = ids.next
  isName : IsName c.name
  free : ∀ d ∈ w.columns, d.name ≠ c.name
  original : c.originalName = some c.name

/-- A column of `w` and what an update of the column with this id makes of it. -/
structure Column.UpdatedIn (w : Definition) (id : Value) (current c : Column) : Prop where
  mem : current ∈ w.columns
  found : current.id.isValue id = true
  id : c.id = current.id
  original : current.IsRooted → c.originalName = current.originalName
  name : c.name = current.name ∨ (IsName c.name ∧ ∀ d ∈ w.columns, d.name ≠ c.name)

namespace Edit

/-- What a successful edit gives back, and the working set that it makes of `w`. -/
inductive Makes (snapshot w : Definition) (ids : IdSupply) : Edit → Made → Definition → Prop where
  | addColumn {a : NewColumn} {c : Column} (new : c.NewIn w ids) :
    Makes snapshot w ids (.addColumn a) (.column c) { w with columns := w.columns ++ [c] }
  | updateColumn {id : Value} {changes : Fields} {current c : Column}
    (updated : Column.UpdatedIn w id current c) :
    Makes snapshot w ids (.updateColumn id changes) (.column c) (w.withColumn id c)
  | renameColumn {id name : Value} {current c : Column}
    (updated : Column.UpdatedIn w id current c)
    (renamed : current.IsRooted → c = { current with name := c.name }) :
    Makes snapshot w ids (.renameColumn id name) (.column c) (w.withColumn id c)
  | dropColumn {id : Value} {c : Column} (mem : c ∈ w.columns) (found : c.id.isValue id = true) :
    Makes snapshot w ids (.dropColumn id) .nothing
      { w with columns := w.columns.filter fun c => !c.id.isValue id }
  | addIndex {name columns type : Value} {i : Index} (isName : IsName i.name)
    (free : ∀ j ∈ w.indexes, j.name ≠ i.name) (formed : i.IsFormed) :
    Makes snapshot w ids (.addIndex name columns type) (.index i)
      { w with indexes := w.indexes ++ [i] }
  | dropIndex {name : Value} {i : Index} (mem : i ∈ w.indexes) (found : name.isText i.name = true) :
    Makes snapshot w ids (.dropIndex name) .nothing
      { w with indexes := w.indexes.filter fun i => !name.isText i.name }
  | addForeignKey {name column table other : Value} {k : ForeignKey}
    (given : name = .text k.constraintName ∧ column = .text k.columnName ∧
      table = .text k.referencedTable ∧ other = .text k.referencedColumn)
    (filled : "" ∉ [k.constraintName, k.columnName, k.referencedTable, k.referencedColumn])
    (free : ∀ j ∈ w.foreignKeys, j.constraintName ≠ k.constraintName) :
    Makes snapshot w ids (.addForeignKey name column table other) (.foreignKey k)
      { w with foreignKeys := w.foreignKeys ++ [k] }
  | dropForeignKey {name : Value} {k : ForeignKey} (mem : k ∈ w.foreignKeys)
    (found : name.isText k.constraintName = true) :
    Makes snapshot w ids (.dropForeignKey name) .nothing
      { w with foreignKeys := w.foreignKeys.filter fun k => !name.isText k.constraintName }
  | addTrigger {name timing event body : Value} {t : Trigger} (isName : IsName t.name)
    (free : ∀ g ∈ w.triggers, g.name ≠ t.name) :
    Makes snapshot w ids (.addTrigger name timing event body) (.trigger t)
      { w with triggers := w.triggers ++ [t] }
  | dropTrigger {name : Value} {t : Trigger} (mem : t ∈ w.triggers)
    (found : name.isText t.name = true) :
    Makes snapshot w ids (.dropTrigger name) .nothing
      { w with triggers := w.triggers.filter fun t => !name.isText t.name }
  | discard : Makes snapshot w ids .discard .nothing snapshot

theorem refuse_bind (e : EditError) (f : α → Except Failure β) :
    (refuse e >>= f) = refuse e := rfl

theorem guard_eq_ok {p : Prop} [Decidable p] {e : EditError} {x : Except Failure α} {a : α} :
    (if p then refuse e else x) = .ok a ↔ ¬p ∧ x = .ok a := by
  split
  next h => exact iff_of_false nofun fun hn => hn.1 h
  next h => exact ⟨fun hx => ⟨h, hx⟩, And.right⟩

theorem requiredText_eq_ok {v : Value} {blank : EditError} {s : String}
    (h : requiredText v blank = .ok s) : IsName s := by
  unfold requiredText at h
  simp only [bind_eq_ok, guard_eq_ok] at h
  obtain ⟨t, -, hne, ht⟩ := h
  cases ht
  exact ⟨trimmed_trimmed t, hne⟩

theorem requireFreeColumn_eq_ok {w : Definition} {name : String} {u : Unit}
    (h : requireFreeColumn w name = .ok u) : ∀ d ∈ w.columns, d.name ≠ name := by
  unfold requireFreeColumn at h
  rw [guard_eq_ok] at h
  simpa using h.1

theorem findColumn_eq_ok {w : Definition} {id : Value} {c : Column}
    (h : findColumn w id = .ok c) : c ∈ w.columns ∧ c.id.isValue id = true := by
  unfold findColumn at h
  split at h
  next hc =>
    cases h
    exact ⟨List.mem_of_find?_eq_some hc, by simpa using List.find?_some hc⟩
  next => cases h

theorem newIn_of_checkFields {w : Definition} {ids : IdSupply} {a : NewColumn} {fields : Fields}
    {c : Column} (hfields : w.newColumnFields a = .ok fields)
    (h : Column.checkFields ids.next fields = .good c) : c.NewIn w ids := by
  unfold Definition.newColumnFields at hfields
  simp only [bind_eq_ok] at hfields
  obtain ⟨name, hname, dataType, -, _, hfree, hfields⟩ := hfields
  cases hfields
  have hc : c.name = name := by
    have := Column.name_of_checkFields h
    cases this
    rfl
  have hn := requiredText_eq_ok hname
  refine ⟨Column.id_of_absent h rfl, hc ▸ hn, hc ▸ requireFreeColumn_eq_ok hfree, ?_⟩
  exact Column.originalName_of_absent h (hc ▸ hn.2) rfl

theorem checkAttributes_eq_ok {changes : Fields} {u : Unit}
    (h : Definition.checkAttributes changes = .ok u) :
    ∀ f ∈ changes, f.1 ≠ "id" ∧ f.1 ≠ "original_name" := by
  unfold Definition.checkAttributes at h
  simp only [guard_eq_ok, Bool.not_eq_true', Bool.not_eq_false, List.isEmpty_iff,
    List.filter_eq_nil_iff] at h
  intro f hf
  have := h.2.1 f.1 (List.mem_map_of_mem hf)
  simpa [Definition.fixedAttributes] using this

/-- The name in checked changes is the column's own or free, if they hold one. -/
theorem checkedName_eq_ok {w : Definition} {current : Column} {changes checked : Fields}
    (h : w.checkedName current changes = .ok checked) :
    (∀ f ∈ checked, f ∈ changes ∨ f.1 = "name") ∧
      ((∀ f ∈ checked, f.1 ≠ "name") ∨
        ∃ name, ("name", .text name) ∈ checked ∧
          (∀ f ∈ checked, f.1 = "name" → f.2 = .text name) ∧
          (name = current.name ∨ (IsName name ∧ ∀ d ∈ w.columns, d.name ≠ name))) := by
  unfold Definition.checkedName at h
  split at h
  next hnone =>
    cases h
    exact ⟨fun f hf => .inl hf, .inl fun f hf => Fields.ne_of_get?_eq_none hnone hf⟩
  next v hv =>
    simp only [bind_eq_ok] at h
    obtain ⟨name, hname, h⟩ := h
    have hput : checked = changes.put "name" (.text name) ∧
        (name = current.name ∨ ∀ d ∈ w.columns, d.name ≠ name) := by
      split at h
      next hne =>
        obtain ⟨_, hfree, h⟩ := bind_eq_ok.1 h
        cases h
        exact ⟨rfl, .inr (requireFreeColumn_eq_ok hfree)⟩
      next he =>
        cases h
        exact ⟨rfl, .inl (not_not.1 he)⟩
    obtain ⟨rfl, hfree⟩ := hput
    refine ⟨fun f hf => ?_, .inr ⟨name, Fields.mem_put.2 (.inr rfl), fun f hf hn => ?_, ?_⟩⟩
    · obtain ⟨hf, -⟩ | rfl := Fields.mem_put.1 hf
      · exact .inl hf
      · exact .inr rfl
    · obtain ⟨-, hne⟩ | rfl := Fields.mem_put.1 hf
      · exact absurd hn hne
      · rfl
    · exact hfree.imp_right fun hf => ⟨requiredText_eq_ok hname, hf⟩

theorem checkedDataType_eq_ok {changes checked : Fields}
    (h : Definition.checkedDataType changes = .ok checked) {f : String × Value}
    (hf : f.1 ≠ "data_type") : f ∈ checked ↔ f ∈ changes := by
  unfold Definition.checkedDataType at h
  split at h
  · cases h
    rfl
  · simp only [guard_eq_ok] at h
    obtain ⟨-, h⟩ := h
    cases h
    rw [Fields.mem_put]
    constructor
    · rintro (⟨h, -⟩ | rfl)
      · exact h
      · exact absurd rfl hf
    · exact fun h => .inl ⟨h, hf⟩

theorem updatedIn_of_updatedColumn {w : Definition} {id : Value} {changes : Fields} {c : Column}
    (h : w.updatedColumn id changes = .ok c) :
    ∃ current, findColumn w id = .ok current ∧ Column.UpdatedIn w id current c := by
  unfold Definition.updatedColumn at h
  simp only [bind_eq_ok] at h
  obtain ⟨current, hfound, _, hattributes, named, hnamed, typed, htyped, h⟩ := h
  split at h
  · cases h
  next c hc =>
    cases h
    refine ⟨current, hfound, ?_⟩
    obtain ⟨hmem, hvalue⟩ := findColumn_eq_ok hfound
    obtain ⟨hsource, hname⟩ := checkedName_eq_ok hnamed
    have hfixed : ∀ f ∈ typed, f.1 ≠ "id" ∧ f.1 ≠ "original_name" := by
      intro f hf
      by_cases htype : f.1 = "data_type"
      · rw [htype]
        decide
      · obtain hf | hname := hsource f ((checkedDataType_eq_ok htyped htype).1 hf)
        · exact checkAttributes_eq_ok hattributes f hf
        · rw [hname]
          decide
    -- no change gives the id or the original name, so both are the column's own
    have hid : (current.fields.putAll typed).get? "id" = some current.id.value :=
      Fields.get?_putAll_of_ne (fun f hf => (hfixed f hf).1) current.fields
    have horiginal : (current.fields.putAll typed).get? "original_name" =
        some (Value.ofText? current.originalName) :=
      Fields.get?_putAll_of_ne (fun f hf => (hfixed f hf).2) current.fields
    refine ⟨hmem, hvalue, Column.id_of_present hc hid, ?_, ?_⟩
    · rintro ⟨s, hs, ho⟩
      rw [ho] at horiginal ⊢
      exact Column.originalName_of_present hc hs horiginal
    · -- the name is the column's own too, unless it was checked
      have hc := Column.name_of_checkFields hc
      obtain hnone | ⟨name, hput, hall, hfree⟩ := hname
      · have htyped : ∀ f ∈ typed, f.1 ≠ "name" := by
          intro f hf hn
          exact hnone f ((checkedDataType_eq_ok htyped (by simp [hn])).1 hf) hn
        have hkept : (current.fields.putAll typed).get? "name" = some (.text current.name) :=
          Fields.get?_putAll_of_ne htyped current.fields
        left
        simpa using hc.symm.trans hkept
      · have hall : ∀ f ∈ typed, f.1 = "name" → f.2 = .text name := by
          intro f hf hn
          exact hall f ((checkedDataType_eq_ok htyped (by simp [hn])).1 hf) hn
        have hput := (checkedDataType_eq_ok htyped (by simp)).2 hput
        rw [Fields.get?_putAll_of_mem hall hput] at hc
        cases hc
        exact hfree

/-- A rename changes the name and nothing else. -/
theorem renamed_of_updatedColumn {w : Definition} {id name : Value} {current c : Column}
    (hfound : findColumn w id = .ok current) (h : w.updatedColumn id [("name", name)] = .ok c)
    (hcurrent : current.IsRooted) : c = { current with name := c.name } := by
  unfold Definition.updatedColumn at h
  simp only [bind_eq_ok] at h
  obtain ⟨_, hfound', _, -, named, hnamed, typed, htyped, h⟩ := h
  rw [hfound] at hfound'
  cases hfound'
  have hname : ∃ n, named = [("name", .text n)] := by
    change (requiredText name .blankColumnName >>= _) = _ at hnamed
    simp only [bind_eq_ok] at hnamed
    obtain ⟨n, -, hnamed⟩ := hnamed
    split at hnamed
    · obtain ⟨_, -, hnamed⟩ := bind_eq_ok.1 hnamed
      cases hnamed
      exact ⟨n, rfl⟩
    · cases hnamed
      exact ⟨n, rfl⟩
  obtain ⟨n, rfl⟩ := hname
  cases htyped
  -- the fields that are checked are those of the column under its new name
  have hfields : Definition.changedColumn current [("name", .text n)] =
      .good { current with name := n } :=
    Column.checkFields_fields (c := { current with name := n }) (.inr hcurrent) current.id
  rw [hfields] at h
  cases h
  rfl

theorem makes_of_newIndex {snapshot w : Definition} {ids : IdSupply} {name columns type : Value}
    {i : Index} (h : w.newIndex name columns type = .ok i) :
    Makes snapshot w ids (.addIndex name columns type) (.index i)
      { w with indexes := w.indexes ++ [i] } := by
  unfold Definition.newIndex at h
  simp only [bind_eq_ok, refuse_bind, guard_eq_ok] at h
  obtain ⟨s, hs, -, kind, -, -, hfree, items, -, names, -, h⟩ := h
  split at h
  next i hi =>
    cases h
    obtain ⟨rfl, hformed⟩ := Index.build?_eq_some hi
    exact .addIndex (requiredText_eq_ok hs) (by simpa using hfree) hformed
  next => cases h

theorem makes_of_newForeignKey {snapshot w : Definition} {ids : IdSupply}
    {name column table other : Value} {k : ForeignKey}
    (h : w.newForeignKey name column table other = .ok k) :
    Makes snapshot w ids (.addForeignKey name column table other) (.foreignKey k)
      { w with foreignKeys := w.foreignKeys ++ [k] } := by
  unfold Definition.newForeignKey at h
  simp only [refuse_bind, guard_eq_ok, Checked.orFail_eq_ok] at h
  obtain ⟨hfilled, hfree, hk⟩ := h
  obtain ⟨hname, hcolumn, htable, hother⟩ := ForeignKey.checkFields_eq_good.1 hk
  cases hname
  cases hcolumn
  cases htable
  cases hother
  refine .addForeignKey ⟨rfl, rfl, rfl, rfl⟩ ?_ ?_
  · intro hempty
    exact hfilled (List.any_eq_true.2 ⟨.text "", List.mem_map_of_mem (f := Value.text) hempty, rfl⟩)
  · intro j hj he
    exact hfree (List.any_eq_true.2 ⟨j, hj, beq_iff_eq.2 he⟩)

theorem makes_of_newTrigger {snapshot w : Definition} {ids : IdSupply}
    {name timing event body : Value} {t : Trigger}
    (h : w.newTrigger name timing event body = .ok t) :
    Makes snapshot w ids (.addTrigger name timing event body) (.trigger t)
      { w with triggers := w.triggers ++ [t] } := by
  unfold Definition.newTrigger at h
  simp only [bind_eq_ok, refuse_bind, guard_eq_ok, Checked.orFail_eq_ok] at h
  obtain ⟨s, hs, _, -, -, _, -, -, hfree, ht⟩ := h
  obtain ⟨hname, -⟩ := Trigger.checkFields_eq_good.1 ht
  have hs := requiredText_eq_ok hs
  cases hname
  exact .addTrigger hs (by simpa using hfree)

/-- An edit that succeeds has made one new working set, and nothing else of the draft. -/
theorem makes_of_perform {e : Edit} {d : Draft} {ids : IdSupply} {m : Made} {t : Draft × IdSupply}
    (h : e.perform (d, ids) = (.ok m, t)) :
    ∃ w, e.Makes d.snapshot d.working ids m w ∧ t.1 = { d with working := w } := by
  cases e with
  | addColumn a =>
    obtain ⟨fields, hfields, c, hc, rfl, rfl⟩ := Editing.addColumn_eq_ok.1 h
    exact ⟨_, .addColumn (newIn_of_checkFields hfields hc), rfl⟩
  | updateColumn id changes =>
    obtain ⟨c, hc, rfl, rfl⟩ := Editing.check_replace_eq_ok.1 h
    obtain ⟨current, -, hupdated⟩ := updatedIn_of_updatedColumn hc
    exact ⟨_, .updateColumn hupdated, rfl⟩
  | renameColumn id name =>
    obtain ⟨c, hc, rfl, rfl⟩ := Editing.check_replace_eq_ok.1 h
    obtain ⟨current, hfound, hupdated⟩ := updatedIn_of_updatedColumn hc
    exact ⟨_, .renameColumn hupdated (renamed_of_updatedColumn hfound hc), rfl⟩
  | dropColumn id =>
    obtain ⟨c, hc, rfl, rfl⟩ := Editing.check_replace_eq_ok.1 h
    obtain ⟨hmem, hfound⟩ := findColumn_eq_ok hc
    exact ⟨_, .dropColumn hmem hfound, rfl⟩
  | addIndex name columns type =>
    obtain ⟨i, hi, rfl, rfl⟩ := Editing.check_replace_eq_ok.1 h
    exact ⟨_, makes_of_newIndex hi, rfl⟩
  | dropIndex name =>
    obtain ⟨⟨i, hmem, hfound⟩, rfl, rfl⟩ := Editing.require_replace_eq_ok.1 h
    exact ⟨_, .dropIndex hmem hfound, rfl⟩
  | addForeignKey name column table other =>
    obtain ⟨k, hk, rfl, rfl⟩ := Editing.check_replace_eq_ok.1 h
    exact ⟨_, makes_of_newForeignKey hk, rfl⟩
  | dropForeignKey name =>
    obtain ⟨⟨k, hmem, hfound⟩, rfl, rfl⟩ := Editing.require_replace_eq_ok.1 h
    exact ⟨_, .dropForeignKey hmem hfound, rfl⟩
  | addTrigger name timing event body =>
    obtain ⟨t, ht, rfl, rfl⟩ := Editing.check_replace_eq_ok.1 h
    exact ⟨_, makes_of_newTrigger ht, rfl⟩
  | dropTrigger name =>
    obtain ⟨⟨t, hmem, hfound⟩, rfl, rfl⟩ := Editing.require_replace_eq_ok.1 h
    exact ⟨_, .dropTrigger hmem hfound, rfl⟩
  | discard =>
    cases h
    exact ⟨_, .discard, rfl⟩

end Edit

end TableDraft
