import Mathlib.Data.List.Forall2
import Mathlib.Data.List.Range
import TableDraft.Proofs.Catalog.Columns
import TableDraft.Proofs.Draft.Rename

namespace TableDraft.Catalog

variable {row : Fields} {c : Column}

/-- The length a row reports, of characters or else of digits. -/
def reportedLength (row : Fields) : Value :=
  truthyOr (cellOrNull row "char_length") (truthyOr (cellOrNull row "numeric_precision") .null)

theorem typeOfRow_eq {dataType columnType : String}
    (h : row.get? "column_type" = some (.text columnType)) : typeOfRow row dataType =
      if needsFullType dataType columnType then (Sql.fullType columnType, .null)
      else (Text.uppered dataType, reportedLength row) := by
  have hdisplay : (truthyOr (cellOrNull row "column_type") (.text "")).display = columnType := by
    rw [cellOrNull, h, Option.getD_some, truthyOr]
    split
    next => rfl
    next he => exact (not_not.1 (mt Value.isTruthy_text.2 he)).symm
  simp only [typeOfRow, hdisplay, reportedLength]

/-- A column as it is read from the cells of a row. -/
structure ReadFrom (row : Fields) (c : Column) : Prop where
  known : c.KnownByName
  type : ∃ dataType, row.get? "data_type" = some dataType ∧
    c.dataType = (typeOfRow row dataType.display).1 ∧
    checkOptional Mark.check (typeOfRow row dataType.display).2 = .good c.length
  default : Value.ofText? c.defaultValue =
    let v := cellOrNull row "column_default"
    if v.isNull then .null else .text v.display

theorem readFrom_of_columnFields {v : Value} {fields : Fields} (h : columnFields v = .ok fields)
    {fresh : ColumnId} (hc : Column.checkFields fresh fields = .good c) :
    c.id = fresh ∧ ∃ row, v = .object row ∧ ReadFrom row c := by
  unfold columnFields at h
  obtain ⟨row, hrow, h⟩ := bind_eq_ok.1 h
  obtain ⟨dataType, hdata, h⟩ := bind_eq_ok.1 h
  dsimp only at h
  obtain ⟨name, -, h⟩ := bind_eq_ok.1 h
  obtain ⟨increment, -, h⟩ := bind_eq_ok.1 h
  cases h
  obtain ⟨-, -, -, htype, hlength, hdefault, -⟩ := Column.checkFields_eq_good.1 hc
  refine ⟨Column.id_of_absent hc rfl, row, eq_object_of_rowFields hrow,
    Column.knownByName_of_checkFields hc rfl, ⟨dataType, get?_of_cell hdata, ?_, ?_⟩, ?_⟩
  · rw [Fields.requiredText_eq_good, Column.get?_withOriginal_of_ne _ (by decide)] at htype
    exact (Value.text.inj (Option.some.inj htype)).symm
  · rwa [Fields.orElse_of_some (Column.get?_withOriginal_of_ne _ (by decide))] at hlength
  · rw [Fields.orElse_of_some (Column.get?_withOriginal_of_ne _ (by decide))] at hdefault
    exact (checkOptionalText_eq_good.1 hdefault).symm

variable {ids ids' : IdSupply} {rows : List Value} {columns : List Column}

/-- Each column is read from the row in its place, and has the next id of the supply. -/
theorem forall₂_columnsOfRows (h : columnsOfRows ids rows = .ok (columns, ids')) :
    List.Forall₂ (fun v c => ∃ row, v = .object row ∧ ReadFrom row c) rows columns ∧
      columns.map Column.id =
        (List.range' (ids.issued + 1) rows.length).map fun n => .word (ids.name n) := by
  induction rows generalizing ids columns with
  | nil =>
    cases h
    exact ⟨.nil, rfl⟩
  | cons v r ih =>
    rw [columnsOfRows] at h
    obtain ⟨fields, hfields, h⟩ := bind_eq_ok.1 h
    obtain ⟨c, hc, h⟩ := bind_eq_ok.1 h
    obtain ⟨⟨rest, ids''⟩, hrest, h⟩ := bind_eq_ok.1 h
    cases h
    obtain ⟨hid, hread⟩ := readFrom_of_columnFields hfields (Checked.orFail_eq_ok.1 hc)
    obtain ⟨hall, hids⟩ := ih hrest
    refine ⟨.cons hread hall, ?_⟩
    rw [List.map_cons, hids, hid]
    rfl

theorem getElem?_of_forall₂ {r : α → β → Prop} {items : List α} {others : List β}
    (h : List.Forall₂ r items others) {n : Nat} {x : α} (hx : items[n]? = some x) :
    ∃ y, others[n]? = some y ∧ r x y := by
  obtain ⟨hn, rfl⟩ := List.getElem?_eq_some_iff.1 hx
  have hother : n < others.length := h.length_eq ▸ hn
  exact ⟨others[n], List.getElem?_eq_getElem hother, h.get hn hother⟩

variable {s : Server} {database table : String} {t : Traffic} {d : Definition}

theorem exists_column_of_load (h : (load s ids database table t).1 = .ok (d, ids'))
    (hrows : s.rows .columns = .ok rows) {n : Nat} (hrow : rows[n]? = some (.object row)) :
    ∃ c, d.columns[n]? = some c ∧ ReadFrom row c := by
  obtain ⟨_, hfound, hcolumns⟩ := columnsOfRows_of_load h
  cases hfound.symm.trans hrows
  obtain ⟨c, hc, cells, hcells, hread⟩ :=
    getElem?_of_forall₂ (forall₂_columnsOfRows hcolumns).1 hrow
  cases hcells
  exact ⟨c, hc, hread⟩

theorem knownByName_of_load (h : (load s ids database table t).1 = .ok (d, ids')) :
    ∀ c ∈ d.columns, c.KnownByName := by
  obtain ⟨_, -, hcolumns⟩ := columnsOfRows_of_load h
  intro c hc
  obtain ⟨n, hn⟩ := List.getElem?_of_mem hc
  obtain ⟨_, -, _, -, hread⟩ := getElem?_of_forall₂ (forall₂_columnsOfRows hcolumns).1.flip hn
  exact hread.known

/-- A supply that never repeats a name gives all columns ids of their own. -/
theorem nodup_columnIds_of_load (hids : Function.Injective ids.name)
    (h : (load s ids database table t).1 = .ok (d, ids')) : d.columnIds.Nodup := by
  obtain ⟨rows, -, hcolumns⟩ := columnsOfRows_of_load h
  rw [Definition.columnIds, (forall₂_columnsOfRows hcolumns).2]
  exact List.Nodup.map (fun m n hmn => hids (Mark.word.inj hmn)) List.nodup_range'

def tally : IdSupply :=
  ⟨fun n => String.ofList (List.replicate n 'x'), 0⟩

theorem injective_tally : Function.Injective tally.name := by
  intro m n h
  simpa [tally] using congrArg (fun name => name.toList.length) h

end TableDraft.Catalog
