import TableDraft.Proofs.Draft.Columns

namespace TableDraft

namespace Draft

variable {opened : Definition} {d : Draft}

/-- Indexes, foreign keys and triggers of a draft of `opened`, as edits leave them. -/
structure TracksItems (opened : Definition) (d : Draft) : Prop where
  snapshot : d.snapshot = opened
  indexNames : d.working.indexNames.Nodup
  constraintNames : d.working.constraintNames.Nodup
  triggerNames : d.working.triggerNames.Nodup
  indexes : ∀ i ∈ d.working.indexes, i ∈ opened.indexes ∨ i.IsFormed

theorem tracksItems_start (h : opened.KeysDistinct) (database table : String) :
    TracksItems opened (start database table opened) :=
  ⟨rfl, h.indexNames, h.constraintNames, h.triggerNames, fun _ => .inl⟩

theorem TracksItems.apply (hkeys : opened.KeysDistinct) (h : TracksItems opened d) (ids : IdSupply)
    (e : Edit) : TracksItems opened (d.apply ids e).2.1 := by
  obtain ⟨-, hsame⟩ | ⟨m, w, hmakes, -, hmade⟩ := d.apply_cases ids e
  · rwa [hsame]
  rw [hmade]
  rw [h.snapshot] at hmakes
  refine ⟨h.snapshot, hmakes.nodup_indexNames hkeys.indexNames h.indexNames,
    hmakes.nodup_constraintNames hkeys.constraintNames h.constraintNames,
    hmakes.nodup_triggerNames hkeys.triggerNames h.triggerNames, ?_⟩
  cases hmakes with
  | addIndex isName free formed =>
    exact List.forall_mem_append.2 ⟨h.indexes, List.forall_mem_singleton.2 (.inr formed)⟩
  | dropIndex => exact fun i hi => h.indexes i (List.mem_filter.1 hi).1
  | discard => exact fun _ => .inl
  | _ => exact h.indexes

theorem TracksItems.run (hkeys : opened.KeysDistinct) (h : TracksItems opened d) (ids : IdSupply)
    (es : List Edit) : TracksItems opened (d.run ids es).1 :=
  run_induction (fun _ ids e _ h => h.apply hkeys ids e) h ids

/-- What edits leave true of a draft `s` that was just opened. -/
structure Preserves (s : Draft) (ids : IdSupply) (es : List Edit) : Prop where
  keys : (s.run ids es).1.working.KeysDistinct
  snapshot : (s.run ids es).1.snapshot = s.snapshot
  originals : ∀ c ∈ (s.run ids es).1.working.columns, ∀ b ∈ s.snapshot.columns, c.id = b.id →
    c.originalName = b.originalName
  newColumns : ∀ before a after c, es = before ++ .addColumn a :: after →
    s.outcome ids before (.addColumn a) = .ok (.column c) →
    (∀ e ∈ after, e.removesColumn c.id = false) →
    ∃ c' ∈ (s.run ids es).1.working.columns, c'.id = c.id ∧ c'.originalName = c.originalName
  newIndexes : ∀ before name columns type after i,
    es = before ++ .addIndex name columns type :: after →
    s.outcome ids before (.addIndex name columns type) = .ok (.index i) → i.IsFormed
  indexes : ∀ i ∈ (s.run ids es).1.working.indexes, i ∈ s.snapshot.indexes ∨ i.IsFormed

/-- Whatever edits are made to a checked definition with distinct keys: keys stay distinct, the
snapshot stays as it was opened, a column of the snapshot keeps its original name, a new one its id
and original name until it is removed, and new indexes have columns and none twice. -/
theorem run_preserves (database table : String) {opened : Definition} (ids : IdSupply)
    (es : List Edit) (hchecked : ∀ c ∈ opened.columns, c.IsChecked) (hkeys : opened.KeysDistinct)
    (hnames : ∀ c ∈ opened.columns, c.name ≠ "")
    (hfresh : (start database table opened).TakesUnused ids es) :
    (start database table opened).Preserves ids es := by
  have hrooted : ∀ c ∈ opened.columns, c.IsRooted :=
    fun c hc => (hchecked c hc).isRooted (hnames c hc)
  have hopened : Opens opened := ⟨hkeys.columnIds, hkeys.columnNames, hrooted⟩
  have hstart : Tracks opened (start database table opened) := hopened.tracks database table
  have hcolumns := hstart.run hopened hfresh
  have hitems := (tracksItems_start hkeys database table).run hkeys ids es
  refine ⟨⟨hcolumns.ids, hcolumns.names, hitems.indexNames, hitems.constraintNames,
    hitems.triggerNames⟩, hcolumns.snapshot, hcolumns.originals, ?_, ?_, hitems.indexes⟩
  · rintro before a after c rfl hmade hafter
    obtain ⟨hfresh, hadded, hfresh'⟩ := takesUnused_append.1 hfresh
    -- the column is there right after its edit, and from then on each edit keeps it
    have hnow := (hstart.run hopened hfresh).apply hopened hadded
    obtain ⟨w, hmakes, hw⟩ := made_of_apply hmade
    rw [run_append]
    refine hnow.keeps_run hopened hfresh' ?_ hafter
    rw [hw]
    cases hmakes with
    | addColumn new => exact List.mem_append_right _ List.mem_cons_self
  · rintro before name columns type after i - hmade
    obtain ⟨w, hmakes, -⟩ := made_of_apply hmade
    cases hmakes with
    | addIndex isName free formed => exact formed

/-- A rename, a new column under the old name, failing edits, and a discard with another start. -/
theorem run_preserves_reused_names :
    let a : Column := ⟨.number 1, "a", some "a", "int", none, none, true, false, false, false⟩
    let opened : Definition := ⟨[a, { a with id := .word "x", name := "b" }],
      [⟨"i", "INDEX", false, ["a", "a"]⟩], [⟨"f", "a", "t", "b"⟩], [⟨"g", "after", "delete", ""⟩]⟩
    let new : NewColumn := ⟨.text " a ", .text "int", .null, .null, .bool true, .bool false,
      .bool false, .bool false⟩
    let edits : List Edit := [.addColumn new, .renameColumn (.bool true) (.text "c"),
      .addColumn new, .updateColumn (.text "#1") [("name", .text "d"), ("unique", .text "yes")],
      .addIndex (.text "i") (.text "ab") (.text "index"), .discard, .dropColumn (.text "x"),
      .addColumn { new with name := .text "b" }, .dropIndex (.text "i"),
      .addIndex (.text "i") (.text "abba") (.text "index")]
    (start "shop" "t" opened).Preserves ⟨fun n => "#" ++ toString n, 0⟩ edits :=
  run_preserves "shop" "t" _ _
    (by simp [Column.isChecked_iff, Column.IsRooted])
    ⟨by decide, by decide, by decide, by decide, by decide⟩ (by decide) (by decide +kernel)

end Draft

end TableDraft
