import TableDraft.Proofs.Catalog.Rows
import TableDraft.Proofs.Index.Group
import TableDraft.Proofs.Plan.NoChanges

namespace TableDraft.Catalog

/-- Work on all items succeeds if it does on each. -/
theorem forall₂_of_mapM {f : α → Except Failure β} {items : List α} {results : List β}
    (h : items.mapM f = .ok results) :
    List.Forall₂ (fun x y => f x = .ok y) items results := by
  induction items generalizing results with
  | nil =>
    cases h
    exact .nil
  | cons x r ih =>
    rw [List.mapM_cons] at h
    obtain ⟨y, hy, h⟩ := bind_eq_ok.1 h
    obtain ⟨rest, hrest, h⟩ := bind_eq_ok.1 h
    cases h
    exact .cons hy (ih hrest)

/-- The index that a row is about. There is none without a name or without a column. -/
def indexNameOf? : Value → Option String
  | .object fields =>
    if (cellOrNull fields "column_name").isNull then none
    else (cellOrNull fields "name").text?.filter (· ≠ "")
  | _ => none

theorem name_of_check {fields : Fields} {name : Value} {r : IndexRow}
    (h : IndexRow.check (.object (("name", name) :: fields)) = .good r) : name.text? = r.name := by
  simp only [IndexRow.check, checkObject, Checked.seq_eq_good, Checked.map_eq_good] at h
  obtain ⟨_, _, ⟨_, _, ⟨_, _, ⟨n, hname, rfl⟩, -, rfl⟩, -, rfl⟩, -, rfl⟩ := h
  rw [Fields.orElse_of_some (v := name) (by simp [Fields.get?]), checkOptionalText_eq_good] at hname
  rw [hname]
  cases n <;> rfl

theorem indexName_of_row {row : Value} {found : Option IndexRow}
    (h : indexRowOfRow row = .ok found) : found.bind IndexRow.indexName? = indexNameOf? row := by
  unfold indexRowOfRow at h
  cases row with
  | object fields =>
    dsimp only at h
    unfold indexNameOf?
    split at h
    next hnull =>
      cases h
      simp only [hnull, if_true, Option.bind_none]
    next hnull =>
      simp only [hnull, if_false, Bool.false_eq_true]
      rw [map_eq_pure_bind] at h
      obtain ⟨r, hr, h⟩ := bind_eq_ok.1 h
      cases h
      rw [name_of_check (Checked.orFail_eq_ok.1 hr)]
      rfl
  | _ => cases h

theorem filterMap_eq_of_forall₂ {f : α → Option γ} {g : β → Option γ} {items : List α}
    {others : List β} (h : List.Forall₂ (fun x y => f x = g y) items others) :
    items.filterMap f = others.filterMap g := by
  induction h with
  | nil => rfl
  | cons hxy _ ih => rw [List.filterMap_cons, List.filterMap_cons, hxy, ih]

theorem indexNames_of_rows {rows : List Value} {found : List IndexRow}
    (h : indexRowsOfRows rows = .ok found) :
    found.filterMap IndexRow.indexName? = rows.filterMap indexNameOf? := by
  unfold indexRowsOfRows at h
  obtain ⟨parts, hparts, h⟩ := bind_eq_ok.1 h
  cases h
  rw [List.filterMap_filterMap]
  have hsame := (forall₂_of_mapM hparts).imp fun _ _ hrow => (indexName_of_row hrow).symm
  exact (filterMap_eq_of_forall₂ hsame).symm

/-- The constraint that a row is about. -/
def constraintOf? : Value → Option String
  | .object fields => (Fields.get? fields "constraint_name").bind Value.text?
  | _ => none

structure KeyReadFrom (row : Fields) (k : ForeignKey) : Prop where
  constraintName : row.get? "constraint_name" = some (.text k.constraintName)
  columnName : row.get? "column_name" = some (.text k.columnName)
  referencedTable : row.get? "referenced_table" = some (.text k.referencedTable)
  referencedColumn : row.get? "referenced_column" = some (.text k.referencedColumn)

theorem KeyReadFrom.constraintOf? {row : Fields} {k : ForeignKey} (h : KeyReadFrom row k) :
    constraintOf? (.object row) = some k.constraintName := by
  rw [Catalog.constraintOf?, h.constraintName]
  rfl

theorem eq_text_of_isText {v : Value} {s : String} (h : v.isText s = true) : v = .text s := by
  cases v with
  | text t => rw [← beq_iff_eq.1 h]
  | _ => cases h

/-- A row is about a constraint that was seen before, or a foreign key is read from it. -/
theorem foreignKeysOfRows_cons {seen : List String} {row : Value} {r : List Value}
    {keys : List ForeignKey} (h : foreignKeysOfRows seen (row :: r) = .ok keys) :
    (∃ n ∈ seen, constraintOf? row = some n ∧ foreignKeysOfRows seen r = .ok keys) ∨
      ∃ fields k rest, row = .object fields ∧ KeyReadFrom fields k ∧ k.constraintName ∉ seen ∧
        keys = k :: rest ∧ foreignKeysOfRows (k.constraintName :: seen) r = .ok rest := by
  rw [foreignKeysOfRows] at h
  obtain ⟨fields, hfields, h⟩ := bind_eq_ok.1 h
  obtain ⟨name, hname, h⟩ := bind_eq_ok.1 h
  obtain ⟨⟨⟩, -, h⟩ := bind_eq_ok.1 h
  have hrow := eq_object_of_rowFields hfields
  have hcell := get?_of_cell hname
  split at h
  next hseen =>
    obtain ⟨n, hn, htext⟩ := List.any_eq_true.1 hseen
    refine .inl ⟨n, hn, ?_, h⟩
    rw [hrow, constraintOf?, hcell, eq_text_of_isText htext]
    rfl
  next hnew =>
    obtain ⟨column, hcolumn, h⟩ := bind_eq_ok.1 h
    obtain ⟨table, htable, h⟩ := bind_eq_ok.1 h
    obtain ⟨other, hother, h⟩ := bind_eq_ok.1 h
    obtain ⟨k, hk, h⟩ := bind_eq_ok.1 h
    obtain ⟨rest, hrest, h⟩ := bind_eq_ok.1 h
    cases h
    obtain ⟨hk₁, hk₂, hk₃, hk₄⟩ := ForeignKey.checkFields_eq_good.1 (Checked.orFail_eq_ok.1 hk)
    cases hk₁
    cases hk₂
    cases hk₃
    cases hk₄
    refine .inr ⟨fields, k, rest, hrow, ⟨hcell, get?_of_cell hcolumn, get?_of_cell htable,
      get?_of_cell hother⟩, fun hmem => hnew ?_, rfl, hrest⟩
    exact List.any_eq_true.2 ⟨_, hmem, beq_self_eq_true _⟩

/-- There is one foreign key for each constraint that is not among the seen ones. -/
theorem constraintNames_of_rows {seen : List String} {rows : List Value} {keys : List ForeignKey}
    (h : foreignKeysOfRows seen rows = .ok keys) : keys.map ForeignKey.constraintName =
      ((rows.filterMap constraintOf?).filter (· ∉ seen)).eraseDups := by
  induction rows generalizing seen keys with
  | nil =>
    cases h
    rfl
  | cons row r ih =>
    rcases foreignKeysOfRows_cons h with
      ⟨n, hn, hrow, hrest⟩ | ⟨fields, k, rest, rfl, hk, hnew, rfl, hrest⟩
    · rw [ih hrest, List.filterMap_cons_some hrow, List.filter_cons_of_neg (by simpa using hn)]
    · rw [List.filterMap_cons_some hk.constraintOf?, List.filter_cons_of_pos (by simpa using hnew),
        List.eraseDups_cons, List.filter_filter, List.map_cons, ih hrest]
      simp only [List.mem_cons, not_or, Bool.decide_and, decide_not, beq_eq_decide]

/-- A foreign key is read from the first row of its constraint. -/
theorem find?_of_foreignKeys {seen : List String} {rows : List Value} {keys : List ForeignKey}
    (h : foreignKeysOfRows seen rows = .ok keys) : ∀ k ∈ keys, k.constraintName ∉ seen ∧
      ∃ fields, rows.find? (constraintOf? · = some k.constraintName) = some (.object fields) ∧
        KeyReadFrom fields k := by
  induction rows generalizing seen keys with
  | nil =>
    cases h
    exact List.forall_mem_nil _
  | cons row r ih =>
    rcases foreignKeysOfRows_cons h with
      ⟨n, hn, hrow, hrest⟩ | ⟨fields, k, rest, rfl, hk, hnew, rfl, hrest⟩
    · intro k hk
      obtain ⟨hnew, fields, hfind, hread⟩ := ih hrest k hk
      refine ⟨hnew, fields, ?_, hread⟩
      rw [List.find?_cons_of_neg, hfind]
      rw [hrow]
      simpa using fun e : n = k.constraintName => hnew (e ▸ hn)
    · refine List.forall_mem_cons.2 ⟨⟨hnew, fields, ?_, hk⟩, fun j hj => ?_⟩
      · exact List.find?_cons_of_pos (by simpa using hk.constraintOf?)
      · obtain ⟨hother, cells, hfind, hread⟩ := ih hrest j hj
        rw [List.mem_cons, not_or] at hother
        refine ⟨hother.2, cells, ?_, hread⟩
        rw [List.find?_cons_of_neg, hfind]
        rw [hk.constraintOf?]
        simpa using fun e : k.constraintName = j.constraintName => hother.1 e.symm

structure TriggerReadFrom (row : Fields) (g : Trigger) : Prop where
  name : row.get? "name" = some (.text g.name)
  timing : row.get? "timing" = some (.text g.timing)
  event : row.get? "event" = some (.text g.event)
  body : ∃ s, truthyOr (cellOrNull row "statement") (.text "") = .text s ∧ g.body = Sql.unwrapBlock s

theorem readFrom_of_triggerOfRow {row : Value} {g : Trigger} (h : triggerOfRow row = .ok g) :
    ∃ fields, row = .object fields ∧ TriggerReadFrom fields g := by
  unfold triggerOfRow at h
  obtain ⟨fields, hfields, h⟩ := bind_eq_ok.1 h
  obtain ⟨name, hname, h⟩ := bind_eq_ok.1 h
  obtain ⟨timing, htiming, h⟩ := bind_eq_ok.1 h
  obtain ⟨event, hevent, h⟩ := bind_eq_ok.1 h
  refine ⟨fields, eq_object_of_rowFields hfields, ?_⟩
  dsimp only at h
  split at h
  next s hs =>
    obtain ⟨_, hstatement, hg⟩ := bind_eq_ok.1 h
    cases hstatement
    obtain ⟨hname', htiming', hevent', hbody⟩ :=
      Trigger.checkFields_eq_good.1 (Checked.orFail_eq_ok.1 hg)
    cases hname'
    cases htiming'
    cases hevent'
    rw [Fields.orElse_of_some rfl, checkText_eq_good] at hbody
    exact ⟨get?_of_cell hname, get?_of_cell htiming, get?_of_cell hevent, s, hs,
      (Value.text.inj hbody).symm⟩
  next =>
    obtain ⟨_, hstatement, -⟩ := bind_eq_ok.1 h
    cases hstatement

/-- What the rows of a catalog, and the way they are read, say about a definition. -/
structure Established (rows : CatalogTable → List Value) (d : Definition) : Prop where
  someColumn : d.columns ≠ []
  columnIds : d.columnIds.Nodup
  originalNames : ∀ c ∈ d.columns, c.name ≠ "" → c.originalName = some c.name
  indexNames : d.indexNames = ((rows .statistics).filterMap indexNameOf?).eraseDups
  indexNamesDistinct : d.indexNames.Nodup
  indexes : ∀ i ∈ d.indexes, i.name ≠ "" ∧ i.IsFormed
  constraintNames :
    d.constraintNames = ((rows .keyColumnUsage).filterMap constraintOf?).eraseDups
  constraintNamesDistinct : d.constraintNames.Nodup
  foreignKeys : ∀ k ∈ d.foreignKeys, ∃ fields,
    (rows .keyColumnUsage).find? (constraintOf? · = some k.constraintName) = some (.object fields) ∧
      KeyReadFrom fields k
  triggers : List.Forall₂ (fun row g => ∃ fields, row = .object fields ∧ TriggerReadFrom fields g)
    (rows .triggers) d.triggers

variable {s : Server} {ids ids' : IdSupply} {database table : String} {t : Traffic} {d : Definition}
  {rows : CatalogTable → List Value}

theorem LoadedFrom.indexNames (h : LoadedFrom ids ids' rows d) :
    d.indexNames = ((rows .statistics).filterMap indexNameOf?).eraseDups := by
  obtain ⟨found, hfound, hindexes⟩ := h.indexes
  rw [Definition.indexNames, hindexes, Index.names_group, indexNames_of_rows hfound]

theorem LoadedFrom.constraintNames (h : LoadedFrom ids ids' rows d) :
    d.constraintNames = ((rows .keyColumnUsage).filterMap constraintOf?).eraseDups := by
  rw [Definition.constraintNames, constraintNames_of_rows h.foreignKeys, List.filter_eq_self.2]
  simp

theorem indexNameOf?_ne_empty {row : Value} {name : String} (h : indexNameOf? row = some name) :
    name ≠ "" := by
  unfold indexNameOf? at h
  split at h
  · split at h
    · cases h
    · simpa using (Option.filter_eq_some_iff.1 h).2
  · cases h

theorem LoadedFrom.isFormed (h : LoadedFrom ids ids' rows d) :
    ∀ i ∈ d.indexes, i.name ≠ "" ∧ i.IsFormed := by
  intro i hi
  constructor
  · have hname : i.name ∈ d.indexNames := List.mem_map_of_mem hi
    rw [h.indexNames, List.mem_eraseDups] at hname
    obtain ⟨row, -, hrow⟩ := List.mem_filterMap.1 hname
    exact indexNameOf?_ne_empty hrow
  · obtain ⟨found, -, hindexes⟩ := h.indexes
    exact Index.isFormed_group found i (hindexes ▸ hi)

theorem plan_of_loaded (hids : d.columnIds.Nodup) (database table : String) :
    (Draft.start database table d).plan.statements = [] := by
  rw [Draft.plan, Draft.start, Plan.statements_eq_nil_iff, Definition.agreesWith_self_iff]
  intro b hb c hc hid
  rw [Column.eq_of_id_eq hids hb hc hid]
  exact Column.AgreesWith.refl c

/-- Whatever rows the catalog has, a load that succeeds gives a definition that can be edited, and a
draft that starts with it has no changes. -/
theorem load_establishes (hids : Function.Injective ids.name)
    (h : (load s ids database table t).1 = .ok (d, ids')) :
    ∃ rows : CatalogTable → List Value, (∀ source, s.rows source = .ok (rows source)) ∧
      Established rows d ∧ (Draft.start database table d).plan.statements = [] := by
  obtain ⟨rows, hrows, hfrom⟩ := loadedFrom_of_load h
  have hcolumnIds := nodup_columnIds_of_load hids h
  refine ⟨rows, hrows, ?_, plan_of_loaded hcolumnIds database table⟩
  exact {
    someColumn := hfrom.someColumn
    columnIds := hcolumnIds
    originalNames := fun c hc hname => (knownByName_of_load h c hc).trans (if_neg hname)
    indexNames := hfrom.indexNames
    indexNamesDistinct := hfrom.indexNames ▸ nodup_eraseDups _
    indexes := hfrom.isFormed
    constraintNames := hfrom.constraintNames
    constraintNamesDistinct := hfrom.constraintNames ▸ nodup_eraseDups _
    foreignKeys := fun k hk => (find?_of_foreignKeys hfrom.foreignKeys k hk).2
    triggers := (forall₂_of_mapM hfrom.triggers).imp fun _ _ => readFrom_of_triggerOfRow }

/-- A server whose rows are out of order and not all good for something: an index row without a
column, one without a name, two indexes in turns, and a foreign key of two columns. -/
def crowded : Server where
  rows
    | .columns => .ok [.object [("name", .text "a"), ("data_type", .text "int")],
        .object [("name", .text ""), ("data_type", .text "int")]]
    | .statistics => .ok [.object [("name", .text "f"), ("non_unique", .int 0)],
        .object [("name", .text "i"), ("column_name", .text "a"), ("non_unique", .int 1)],
        .object [("name", .text "f"), ("column_name", .text "a")],
        .object [("column_name", .text "a")],
        .object [("name", .text "i"), ("column_name", .text "a"), ("index_type", .text "FULLTEXT")]]
    | .keyColumnUsage => .ok [
        .object [("constraint_name", .text "k"), ("column_name", .text "a"),
          ("referenced_table", .text "t"), ("referenced_column", .text "id")],
        .object [("constraint_name", .text "k"), ("column_name", .int 0)]]
    | .triggers => .ok [.object [("name", .text "g"), ("timing", .text "AFTER"),
        ("event", .text "INSERT"), ("statement", .text "BEGIN SET @x = 1; END")]]
  answers := []
  version := .ok "8.0"

theorem load_establishes_crowded : ∃ d ids' rows,
    (load crowded tally "shop" "items" Traffic.none).1 = .ok (d, ids') ∧ Established rows d ∧
      d.indexNames = ["i", "f"] ∧ d.constraintNames = ["k"] ∧
      (Draft.start "shop" "items" d).plan.statements = [] := by
  have hload : (load crowded tally "shop" "items" Traffic.none).1 = .ok (_, tally.advance.advance) :=
    rfl
  obtain ⟨rows, -, hestablished, hplan⟩ := load_establishes injective_tally hload
  exact ⟨_, _, rows, hload, hestablished, rfl, rfl, hplan⟩

end TableDraft.Catalog
