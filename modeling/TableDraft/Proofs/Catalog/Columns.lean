import TableDraft.Catalog
import TableDraft.Proofs.Definition.Written

namespace TableDraft.Catalog
open TableDraft.Number

variable {longest : Nat} {fields : Fields}

theorem isShort_cellOrNull (h : ∀ f ∈ fields, f.2.IsShort longest) (name : String) :
    (cellOrNull fields name).IsShort longest := by
  unfold cellOrNull
  cases hv : fields.get? name with
  | none => exact .null
  | some v => exact h _ (Fields.mem_of_get? hv)

theorem isShort_truthyOr {v other : Value} (hv : v.IsShort longest) (ho : other.IsShort longest) :
    (truthyOr v other).IsShort longest := by
  unfold truthyOr
  split <;> assumption

theorem isShort_typeOfRow (h : ∀ f ∈ fields, f.2.IsShort longest) (dataType : String) :
    (typeOfRow fields dataType).2.IsShort longest := by
  unfold typeOfRow
  dsimp only
  split
  · exact .null
  · exact isShort_truthyOr (isShort_cellOrNull h _) (isShort_truthyOr (isShort_cellOrNull h _) .null)

theorem eq_object_of_rowFields {v : Value} (h : rowFields v = .ok fields) : v = .object fields := by
  cases v with
  | object cells =>
    cases h
    rfl
  | _ => cases h

theorem get?_of_cell {name : String} {v : Value} (h : cell fields name = .ok v) :
    fields.get? name = some v := by
  unfold cell at h
  split at h
  next hv =>
    cases h
    exact hv
  next => cases h

theorem isShort_columnFields {row : Value} (hrow : row.IsShort longest)
    (h : columnFields row = .ok fields) : ∀ f ∈ fields, f.2.IsShort longest := by
  unfold columnFields at h
  obtain ⟨cells, hcells, h⟩ := bind_eq_ok.1 h
  have hshort : ∀ f ∈ cells, f.2.IsShort longest := by
    rw [eq_object_of_rowFields hcells] at hrow
    cases hrow with
    | object hfields => exact hfields
  obtain ⟨dataType, -, h⟩ := bind_eq_ok.1 h
  have htype := isShort_typeOfRow hshort dataType.display
  dsimp only at h
  obtain ⟨name, hcell, h⟩ := bind_eq_ok.1 h
  obtain ⟨increment, -, h⟩ := bind_eq_ok.1 h
  have hname : name.IsShort longest := hshort _ (Fields.mem_of_get? (get?_of_cell hcell))
  cases h
  simp only [List.forall_mem_cons]
  refine ⟨hname, .text _, htype, ?_, .bool _, .bool _, .bool _, .bool _, List.forall_mem_nil _⟩
  split
  · exact .null
  · exact .text _

theorem isReadable_of_columnsOfRows {ids ids' : IdSupply} {rows : List Value}
    (hrows : ∀ row ∈ rows, row.IsShort digitLimit) {columns : List Column}
    (h : columnsOfRows ids rows = .ok (columns, ids')) : ∀ c ∈ columns, c.IsReadable := by
  induction rows generalizing ids columns with
  | nil =>
    cases h
    exact List.forall_mem_nil _
  | cons row r ih =>
    obtain ⟨hrow, hr⟩ := List.forall_mem_cons.1 hrows
    rw [columnsOfRows] at h
    obtain ⟨fields, hfields, h⟩ := bind_eq_ok.1 h
    obtain ⟨c, hc, h⟩ := bind_eq_ok.1 h
    obtain ⟨⟨rest, ids''⟩, hrest, h⟩ := bind_eq_ok.1 h
    cases h
    refine List.forall_mem_cons.2 ⟨?_, ih hr hrest⟩
    exact Column.isReadable_of_checkFields (isShort_columnFields hrow hfields)
      (Mark.isShort_word _) (Checked.orFail_eq_ok.1 hc)

theorem rows_of_fetch {s : Server} {source : CatalogTable} {database table : String}
    {rows : List Value} {t t' : Traffic} (h : s.fetch source database table t = (.ok rows, t')) :
    s.rows source = .ok rows := by
  unfold Server.fetch at h
  obtain ⟨⟨⟩, u, -, h⟩ := bind_apply_eq_ok.1 h
  cases hrows : s.rows source with
  | ok found =>
    rw [hrows] at h
    cases h
    rfl
  | error message =>
    rw [hrows] at h
    cases h

theorem eq_ok_of_ofExcept {e : Except Failure α} {a : α} {t t' : Traffic}
    (h : OnServer.ofExcept e t = (.ok a, t')) : e = .ok a := by
  cases e with
  | ok b =>
    cases h
    rfl
  | error f => cases h

/-- A definition with the columns, indexes, foreign keys and triggers that the rows describe. -/
structure LoadedFrom (ids ids' : IdSupply) (rows : CatalogTable → List Value) (d : Definition) :
    Prop where
  columns : columnsOfRows ids (rows .columns) = .ok (d.columns, ids')
  someColumn : d.columns ≠ []
  indexes : ∃ found, indexRowsOfRows (rows .statistics) = .ok found ∧ d.indexes = Index.group found
  foreignKeys : foreignKeysOfRows [] (rows .keyColumnUsage) = .ok d.foreignKeys
  triggers : (rows .triggers).mapM triggerOfRow = .ok d.triggers

theorem loadedFrom_of_load {s : Server} {ids ids' : IdSupply} {database table : String}
    {t : Traffic} {d : Definition} (h : (load s ids database table t).1 = .ok (d, ids')) :
    ∃ rows : CatalogTable → List Value, (∀ source, s.rows source = .ok (rows source)) ∧
      LoadedFrom ids ids' rows d := by
  have hload : load s ids database table t = (.ok (d, ids'), (load s ids database table t).2) :=
    Prod.ext h rfl
  unfold load at hload
  obtain ⟨columnRows, _, hcolumnRows, hload⟩ := bind_apply_eq_ok.1 hload
  obtain ⟨columns, _, hcolumns, hload⟩ := bind_apply_eq_ok.1 hload
  dsimp only at hload
  split at hload
  · obtain ⟨_, _, hnone, -⟩ := bind_apply_eq_ok.1 hload
    cases hnone
  next hsome =>
    obtain ⟨indexRows, _, hindexRows, hload⟩ := bind_apply_eq_ok.1 hload
    obtain ⟨found, _, hfound, hload⟩ := bind_apply_eq_ok.1 hload
    obtain ⟨keyRows, _, hkeyRows, hload⟩ := bind_apply_eq_ok.1 hload
    obtain ⟨keys, _, hkeys, hload⟩ := bind_apply_eq_ok.1 hload
    obtain ⟨triggerRows, _, htriggerRows, hload⟩ := bind_apply_eq_ok.1 hload
    obtain ⟨triggers, _, htriggers, hload⟩ := bind_apply_eq_ok.1 hload
    cases hload
    have hall : ∀ source, ∃ rows, s.rows source = .ok rows := by
      rintro (_ | _ | _ | _)
      · exact ⟨_, rows_of_fetch hcolumnRows⟩
      · exact ⟨_, rows_of_fetch hindexRows⟩
      · exact ⟨_, rows_of_fetch hkeyRows⟩
      · exact ⟨_, rows_of_fetch htriggerRows⟩
    choose rows hrows using hall
    -- what was fetched is what the server answers
    cases (rows_of_fetch hcolumnRows).symm.trans (hrows _)
    cases (rows_of_fetch hindexRows).symm.trans (hrows _)
    cases (rows_of_fetch hkeyRows).symm.trans (hrows _)
    cases (rows_of_fetch htriggerRows).symm.trans (hrows _)
    exact ⟨rows, hrows, {
      columns := eq_ok_of_ofExcept hcolumns
      someColumn := fun hnone => hsome (List.isEmpty_iff.2 hnone)
      indexes := ⟨found, eq_ok_of_ofExcept hfound, rfl⟩
      foreignKeys := eq_ok_of_ofExcept hkeys
      triggers := eq_ok_of_ofExcept htriggers }⟩

/-- The columns of a loaded definition are those of the rows. -/
theorem columnsOfRows_of_load {s : Server} {ids ids' : IdSupply} {database table : String}
    {t : Traffic} {d : Definition} (h : (load s ids database table t).1 = .ok (d, ids')) :
    ∃ rows, s.rows .columns = .ok rows ∧ columnsOfRows ids rows = .ok (d.columns, ids') := by
  obtain ⟨rows, hrows, hfrom⟩ := loadedFrom_of_load h
  exact ⟨rows .columns, hrows .columns, hfrom.columns⟩

/-- A definition that was loaded can be read once it is written. -/
theorem isReadable_of_load {s : Server} {ids ids' : IdSupply} {database table : String} {t : Traffic}
    (hs : ∀ rows, s.rows .columns = .ok rows → ∀ row ∈ rows, row.IsShort digitLimit)
    {d : Definition} (h : (load s ids database table t).1 = .ok (d, ids')) : d.IsReadable := by
  obtain ⟨rows, hrows, hcolumns⟩ := columnsOfRows_of_load h
  exact isReadable_of_columnsOfRows (hs rows hrows) hcolumns

end TableDraft.Catalog
