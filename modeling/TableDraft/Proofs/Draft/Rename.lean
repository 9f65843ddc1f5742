import TableDraft.Proofs.Draft.Columns
import TableDraft.Proofs.Plan.ColumnStatements

namespace TableDraft
open TableDraft.Text

@[simp] theorem Mark.isValue_value (m : Mark) : m.isValue m.value = true := by
  cases m <;> exact beq_self_eq_true _

namespace Column

/-- The server knows the column by its own name, if that is not empty. -/
def KnownByName (c : Column) : Prop :=
  c.originalName = if c.name = "" then none else some c.name

theorem KnownByName.sourceName {c : Column} (h : c.KnownByName) : c.sourceName = c.name := by
  rw [Column.sourceName, h]
  by_cases hn : c.name = ""
  · simp only [if_pos hn]
  · simp only [if_neg hn]

theorem knownByName_of_checkFields {fresh : ColumnId} {raw : Fields} {c : Column}
    (h : checkFields fresh raw = .good c) (ho : raw.get? "original_name" = none) : c.KnownByName := by
  unfold KnownByName
  split
  next hn =>
    have hname : raw.get? "name" = some (.text "") := hn ▸ name_of_checkFields h
    have hw : withOriginal raw = raw := by
      unfold withOriginal
      rw [hname]
      rfl
    obtain ⟨-, -, horiginal, -⟩ := checkFields_eq_good.1 h
    rw [hw, Fields.orElse_eq_good, ho] at horiginal
    obtain ⟨v, hv, -⟩ | ⟨-, hnone⟩ := horiginal
    · cases hv
    · exact hnone.symm
  next hn => exact originalName_of_absent h hn (by rw [ho]; rfl)

/-- The column under another name, which a column without an original name takes for that too. -/
def renamed (c : Column) (name : String) : Column :=
  { c with name, originalName := some (c.originalName.getD name) }

theorem checkFields_renamed {c : Column} (h : c.KnownByName) {name : String} (hname : name ≠ "")
    (fresh : ColumnId) : checkFields fresh { c with name }.fields = .good (c.renamed name) := by
  have hrooted : (c.renamed name).IsRooted := by
    refine ⟨_, ?_, rfl⟩
    rw [h]
    split
    · exact hname
    next hn => exact hn
  have hfields : withOriginal { c with name }.fields = withOriginal (c.renamed name).fields := by
    rw [withOriginal_fields (.inr hrooted)]
    by_cases hn : c.name = ""
    · -- without an original name the new name is put in its place
      have hnone : c.originalName = none := by rw [h, if_pos hn]
      have hget : { c with name }.fields.get? "name" = some (.text name) := rfl
      rw [withOriginal_of_not_truthy hget (Value.isTruthy_text.2 hname)]
      · simp [fields, renamed, hnone, Fields.put, Fields.replace, Value.ofText?]
      · show (Value.ofText? c.originalName).isTruthy = false
        rw [hnone]
        rfl
    · have hsome : c.originalName = some c.name := by rw [h, if_neg hn]
      rw [withOriginal_fields (c := { c with name }) (.inr ⟨c.name, hn, hsome⟩)]
      simp [fields, renamed, hsome]
  have hchecked := checkFields_fields (.inr hrooted) fresh
  rwa [checkFields, ← hfields] at hchecked

end Column

namespace Definition
open Edit

variable {w : Definition} {c : Column}

theorem findColumn_value (hids : w.columnIds.Nodup) (hc : c ∈ w.columns) :
    findColumn w c.id.value = .ok c := by
  have hunique : ∀ b ∈ w.columns, b.id.isValue c.id.value = true → b = c := fun b hb hid =>
    Column.eq_of_id_eq hids hb hc (Mark.eq_of_isValue hid c.id.isValue_value)
  have hfind := find?_of_unique (p := (·.id.isValue c.id.value)) hc c.id.isValue_value hunique
  rw [findColumn, hfind]

theorem requiredText_text {name : String} (h : trimmed name ≠ "") (blank : EditError) :
    requiredText (.text name) blank = .ok (trimmed name) := by
  have hne : name ≠ "" := by
    rintro rfl
    exact h rfl
  simp only [requiredText, textOrEmpty, Value.isTruthy_text.2 hne]
  exact if_neg h

/-- A column can take any name that is not blank and not taken. -/
theorem updatedColumn_name (hids : w.columnIds.Nodup) (hc : c ∈ w.columns) (hknown : c.KnownByName)
    {name : String} (hname : trimmed name ≠ "") (hfree : ∀ d ∈ w.columns, d.name ≠ trimmed name) :
    w.updatedColumn c.id.value [("name", .text name)] = .ok (c.renamed (trimmed name)) := by
  have hnone : requireFreeColumn w (trimmed name) = .ok () := by
    rw [requireFreeColumn, if_neg (by simpa using hfree)]
    rfl
  have hchecked : w.checkedName c [("name", .text name)] = .ok [("name", .text (trimmed name))] := by
    refine bind_eq_ok.2 ⟨_, requiredText_text hname _, ?_⟩
    rw [if_pos (hfree c hc).symm, hnone]
    rfl
  refine bind_eq_ok.2 ⟨c, findColumn_value hids hc, bind_eq_ok.2 ⟨(), rfl, ?_⟩⟩
  refine bind_eq_ok.2 ⟨_, hchecked, bind_eq_ok.2 ⟨_, rfl, ?_⟩⟩
  have hfields : changedColumn c [("name", .text (trimmed name))] =
      .good (c.renamed (trimmed name)) := Column.checkFields_renamed hknown hname c.id
  rw [hfields]
  rfl

end Definition

theorem flatMap_eq_of_unique {key : α → β} {items : List α} {x : α} {f : α → List γ}
    (h : (items.map key).Nodup) (hx : x ∈ items) (hf : ∀ y ∈ items, key y ≠ key x → f y = []) :
    items.flatMap f = f x := by
  induction items with
  | nil => cases hx
  | cons y r ih =>
    obtain ⟨hy, hr⟩ := List.nodup_cons.1 h
    obtain ⟨hfy, hfr⟩ := List.forall_mem_cons.1 hf
    rw [List.flatMap_cons]
    obtain rfl | hxr := List.mem_cons.1 hx
    · have hnone : ∀ z ∈ r, f z = [] := by
        intro z hz
        exact hfr z hz fun he => hy (he ▸ List.mem_map_of_mem hz)
      rw [List.flatMap_eq_nil_iff.2 hnone, List.append_nil]
    · have hne : key y ≠ key x := fun he => hy (he ▸ List.mem_map_of_mem hxr)
      rw [hfy hne, List.nil_append]
      exact ih hr hxr hfr

namespace Definition

variable {opened : Definition} {id : Value} {current c : Column}

/-- Every column is kept, and only the updated one is not what it was. -/
theorem kept_withColumn (hids : opened.columnIds.Nodup) (h : Column.UpdatedIn opened id current c) :
    opened.kept (opened.withColumn id c) =
      opened.columns.map fun b => ⟨b, if b.id.isValue id then c else b⟩ := by
  have hfind : ∀ b ∈ opened.columns, opened.columns.find? (·.id = b.id) = some b := by
    intro b hb
    refine find?_of_unique hb (decide_eq_true rfl) fun y hy hid => ?_
    exact Column.eq_of_id_eq hids hy hb (of_decide_eq_true hid)
  rw [kept, withColumn, List.filterMap_map, ← List.filterMap_eq_map]
  refine List.filterMap_congr fun b hb => ?_
  simp only [Function.comp_apply, id_withColumn h b, hfind b hb, Option.map_some]

end Definition

/-- An update of one column calls for what the change of that column calls for. -/
theorem Plan.statements_withColumn (database table : String) {opened : Definition}
    (hids : opened.columnIds.Nodup) (hsource : ∀ b ∈ opened.columns, b.sourceName = b.name)
    {id : Value} {current c : Column} (h : Column.UpdatedIn opened id current c) :
    (compile database table opened (opened.withColumn id c)).statements =
      ColumnChange.texts table ⟨current, c⟩ := by
  have hsame := Definition.columnIds_withColumn h
  have hother : ∀ b ∈ opened.columns, b.id ≠ current.id →
      ColumnChange.texts table ⟨b, if b.id.isValue id then c else b⟩ = [] := by
    intro b _ hne
    rw [if_neg fun hb => hne (Mark.eq_of_isValue hb h.found)]
    exact (ColumnChange.texts_renamed table b b.name b.originalName).trans (if_pos rfl)
  have hall : (compile database table opened (opened.withColumn id c)).statements = _ :=
    statements_of_columns database table hids hsource rfl rfl rfl
  rw [hall, Definition.filter_new_eq_nil hsame, Definition.filter_new_eq_nil hsame.symm,
    Definition.kept_withColumn hids h, List.flatMap_map, flatMap_eq_of_unique hids h.mem hother,
    if_pos h.found]
  exact List.append_nil _

namespace Draft

variable {d : Definition} {c : Column} {name : String}

theorem apply_rename (hids : d.columnIds.Nodup) (hc : c ∈ d.columns) (hknown : c.KnownByName)
    (hname : trimmed name ≠ "") (hfree : ∀ e ∈ d.columns, e.name ≠ trimmed name)
    (database table : String) (ids : IdSupply) :
    (start database table d).apply ids (.renameColumn c.id.value (.text name)) =
      (.ok (.column (c.renamed (trimmed name))),
        { start database table d with
          working := d.withColumn c.id.value (c.renamed (trimmed name)) }, ids) :=
  Editing.check_replace_eq_ok.2
    ⟨_, Definition.updatedColumn_name hids hc hknown hname hfree, rfl, rfl⟩

/-- The plan after one rename has one statement. -/
theorem statements_rename (hids : d.columnIds.Nodup) (hknown : ∀ c ∈ d.columns, c.KnownByName)
    (hc : c ∈ d.columns) (hname : trimmed name ≠ "")
    (hfree : ∀ e ∈ d.columns, e.name ≠ trimmed name) (database table : String) (ids : IdSupply) :
    ((start database table d).apply ids
      (.renameColumn c.id.value (.text name))).2.1.plan.statements =
        [ColumnChange.changeText table ⟨c, c.renamed (trimmed name)⟩] := by
  have hmade := Definition.updatedColumn_name hids hc (hknown c hc) hname hfree
  have hupdated : Column.UpdatedIn d c.id.value c (c.renamed (trimmed name)) := by
    obtain ⟨b, hfound, hupdated⟩ := Edit.updatedIn_of_updatedColumn hmade
    rw [Definition.findColumn_value hids hc] at hfound
    cases hfound
    exact hupdated
  have htexts : ColumnChange.texts table ⟨c, c.renamed (trimmed name)⟩ =
      [ColumnChange.changeText table ⟨c, c.renamed (trimmed name)⟩] :=
    (ColumnChange.texts_renamed table c (trimmed name) _).trans (if_neg (hfree c hc).symm)
  rw [apply_rename hids hc (hknown c hc) hname hfree, ← htexts]
  exact Plan.statements_withColumn database table hids (fun b hb => (hknown b hb).sourceName) hupdated

end Draft

end TableDraft
