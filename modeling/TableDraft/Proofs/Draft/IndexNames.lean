import TableDraft.Proofs.Draft.KeyUses
import TableDraft.Proofs.Plan.IndexNames

namespace TableDraft.Draft

variable {opened : Definition} {d : Draft}

/-- Indexes of a draft of `opened`: their names differ, and new ones have good names and columns. -/
structure TracksIndexes (opened : Definition) (d : Draft) : Prop where
  snapshot : d.snapshot = opened
  names : d.working.indexNames.Nodup
  indexes : ∀ i ∈ d.working.indexes, i ∈ opened.indexes ∨ (IsName i.name ∧ i.IsFormed)

theorem tracksIndexes_start (h : opened.indexNames.Nodup) (database table : String) :
    TracksIndexes opened (start database table opened) :=
  ⟨rfl, h, fun _ => .inl⟩

theorem TracksIndexes.apply (hnames : opened.indexNames.Nodup) (h : TracksIndexes opened d)
    (ids : IdSupply) (e : Edit) : TracksIndexes opened (d.apply ids e).2.1 := by
  obtain ⟨-, hsame⟩ | ⟨m, w, hmakes, -, hmade⟩ := d.apply_cases ids e
  · rwa [hsame]
  rw [hmade]
  rw [h.snapshot] at hmakes
  refine ⟨h.snapshot, hmakes.nodup_indexNames hnames h.names, ?_⟩
  cases hmakes with
  | addIndex isName free formed =>
    exact List.forall_mem_append.2 ⟨h.indexes, List.forall_mem_singleton.2 (.inr ⟨isName, formed⟩)⟩
  | dropIndex => exact fun i hi => h.indexes i (List.mem_filter.1 hi).1
  | discard => exact fun _ => .inl
  | _ => exact h.indexes

theorem TracksIndexes.run (hnames : opened.indexNames.Nodup) (h : TracksIndexes opened d)
    (ids : IdSupply) (es : List Edit) : TracksIndexes opened (d.run ids es).1 :=
  run_induction (fun _ ids e _ h => h.apply hnames ids e) h ids

theorem TracksIndexes.isName (h : TracksIndexes opened d)
    (hgood : ∀ i ∈ opened.indexes, IsName i.name) : ∀ i ∈ d.working.indexes, IsName i.name := by
  intro i hi
  obtain hopened | ⟨hname, -⟩ := h.indexes i hi
  · exact hgood i hopened
  · exact hname

theorem TracksIndexes.columns_ne_nil (h : TracksIndexes opened d) :
    ∀ i ∈ d.working.indexes, i.name ∉ opened.indexNames → i.columns ≠ [] := by
  intro i hi hnew
  obtain hopened | ⟨-, hformed⟩ := h.indexes i hi
  · exact absurd (List.mem_map_of_mem hopened) hnew
  · exact hformed.1

/-- After any edits the plan creates no index name twice and drops none twice, except where a change
of uniqueness and an edit of indexes are about one name. A name is created twice exactly if a column
that became unique meets a new index called after it, and dropped twice exactly if a column that is no
longer unique meets an index that is gone and was called after it. -/
theorem indexNames_run (database table : String) {opened : Definition} (ids : IdSupply)
    (es : List Edit) (hids : opened.columnIds.Nodup) (hnames : opened.columnNames.Nodup)
    (hloaded : Loaded opened) (hindexes : opened.indexNames.Nodup)
    (hgood : ∀ i ∈ opened.indexes, IsName i.name)
    (hfresh : (start database table opened).TakesUnused ids es) :
    let d := ((start database table opened).run ids es).1
    let created := d.steps.filterMap Statement.createdIndex?
    let dropped := d.steps.filterMap Statement.droppedIndex?
    (created.Pairwise (fun m n => m.name = n.name → m.backing = true ∧ n.backing = false) ∧
      ((created.map IndexMention.name).Nodup ↔
        ∀ b ∈ opened.columns, ∀ c ∈ d.working.columns, c.id = b.id → b.unique = false →
          c.unique = true → uniqueIndexName c.name ∈ d.working.indexNames →
            uniqueIndexName c.name ∈ opened.indexNames)) ∧
    (dropped.Pairwise (fun m n => m.name = n.name → m.backing = true ∧ n.backing = false) ∧
      ((dropped.map IndexMention.name).Nodup ↔
        ∀ b ∈ opened.columns, ∀ c ∈ d.working.columns, c.id = b.id → b.unique = true →
          c.unique = false → uniqueIndexName b.name ∈ opened.indexNames →
            uniqueIndexName b.name ∈ d.working.indexNames)) := by
  intro d
  have hopened := hloaded.opens hids hnames
  have hcolumns : Tracks opened d := (hopened.tracks database table).run hopened hfresh
  have hitems : TracksIndexes opened d :=
    (tracksIndexes_start hindexes database table).run hindexes ids es
  have hcolumnNames : ∀ c ∈ d.working.columns, IsName c.name := by
    apply isName_run
    · exact fun c hc => (hloaded c hc).1
    · exact fun c hc => (hloaded c hc).1
  have hapart := hcolumns.namedApart hopened hloaded hcolumnNames
  -- the server knows a loaded column by its name, so a dropped index is named after that
  have hsource : ∀ b ∈ opened.columns, b.sourceName = b.name :=
    fun b hb => (hloaded.isLoaded hb).sourceName
  have hworking := fun i hi => (hitems.isName hgood i hi).1
  rw [steps, hcolumns.snapshot]
  exact ⟨Diff.created_indexes hapart hitems.names hworking hitems.columns_ne_nil d.table,
    Diff.dropped_indexes hapart hsource hindexes (fun i hi => (hgood i hi).1) d.table⟩

/-- Two columns trade uniqueness, one of them under a new name, while indexes called after the names
they do not have come and go. -/
theorem indexNames_run_apart :
    let a : Column := ⟨.number 1, "a", some "a", "INT", none, none, true, false, false, false⟩
    let b : Column := { a with id := .number 2, name := "b", originalName := some "b", unique := true }
    let opened : Definition := ⟨[a, b], [⟨"uq_c", "UNIQUE", true, ["a"]⟩], [], []⟩
    let edits : List Edit := [.updateColumn (.int 1) [("unique", .bool true), ("name", .text "d")],
      .updateColumn (.int 2) [("unique", .bool false)], .dropIndex (.text "uq_c"),
      .addIndex (.text "uq_a") (.list [.text "b"]) (.text "INDEX"),
      .addIndex (.text "uq_b") (.list [.text "b"]) (.text "INDEX")]
    let d := ((start "shop" "t" opened).run ⟨fun n => "#" ++ toString n, 0⟩ edits).1
    ((d.steps.filterMap Statement.createdIndex?).map IndexMention.name).Nodup ∧
      ((d.steps.filterMap Statement.droppedIndex?).map IndexMention.name).Nodup := by
  intro a b opened edits d
  have hkeys : opened.columnIds.Nodup ∧ opened.columnNames.Nodup ∧ opened.indexNames.Nodup := by
    decide +kernel
  have hloaded : Loaded opened ∧ ∀ i ∈ opened.indexes, IsName i.name := by
    decide +kernel
  obtain ⟨⟨-, hcreated⟩, ⟨-, hdropped⟩⟩ := indexNames_run "shop" "t"
    ⟨fun n => "#" ++ toString n, 0⟩ edits hkeys.1 hkeys.2.1 hloaded.1 hkeys.2.2 hloaded.2
    (by decide +kernel)
  exact ⟨hcreated.2 (by decide +kernel), hdropped.2 (by decide +kernel)⟩

/-- A column becomes unique and gets an index called after it, and the other way round. Both edits
succeed, and the plan has the statement twice. -/
theorem indexNames_run_twice :
    let c : Column := ⟨.number 1, "email", some "email", "TEXT", none, none, true, false, false, false⟩
    let plain : Definition := ⟨[c], [], [], []⟩
    let indexed : Definition :=
      ⟨[{ c with unique := true }], [⟨"uq_email", "UNIQUE", true, ["email"]⟩], [], []⟩
    let ids : IdSupply := ⟨fun n => "gen" ++ toString n, 0⟩
    let additions := [Edit.updateColumn (.int 1) [("unique", .bool true)],
      .addIndex (.text "uq_email") (.list [.text "email"]) (.text "UNIQUE")]
    let removals := [Edit.updateColumn (.int 1) [("unique", .bool false)],
      .dropIndex (.text "uq_email")]
    let added := ((start "shop" "users" plain).run ids additions).1
    let removed := ((start "shop" "users" indexed).run ids removals).1
    (plain.KeysDistinct ∧ Loaded plain ∧
      added.steps.filterMap Statement.createdIndex? = [⟨true, "uq_email"⟩, ⟨false, "uq_email"⟩] ∧
      added.plan.statements = ["CREATE UNIQUE INDEX `uq_email` ON `users` (`email`);",
        "CREATE UNIQUE INDEX `uq_email` ON `users` (`email`);"]) ∧
    (indexed.KeysDistinct ∧ Loaded indexed ∧ (∀ i ∈ indexed.indexes, IsName i.name) ∧
      removed.steps.filterMap Statement.droppedIndex? = [⟨true, "uq_email"⟩, ⟨false, "uq_email"⟩] ∧
      removed.plan.statements = ["DROP INDEX `uq_email` ON `users`;",
        "DROP INDEX `uq_email` ON `users`;"]) := by
  intro c plain indexed ids additions removals added removed
  refine ⟨⟨?_, by decide +kernel, by decide +kernel, by decide +kernel⟩,
    ⟨?_, by decide +kernel, by decide +kernel, by decide +kernel, by decide +kernel⟩⟩
  · constructor <;> decide +kernel
  · constructor <;> decide +kernel

end TableDraft.Draft
