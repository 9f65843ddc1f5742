import TableDraft.Proofs.Draft.Columns
import TableDraft.Proofs.Plan.ColumnReplay

namespace TableDraft.Draft
open TableDraft.Text ColumnOp

/-- The column statements of the plan, which stand in it in this order. -/
def columnOps (d : Draft) : List ColumnOp :=
  (Diff.of d.snapshot d.working).columnOps d.table

/-- The columns of a definition are those of a table: their names are good, and the server's. -/
def Loaded (opened : Definition) : Prop :=
  ∀ c ∈ opened.columns, IsName c.name ∧ c.originalName = some c.name

instance (opened : Definition) : Decidable (Loaded opened) :=
  inferInstanceAs (Decidable (∀ c ∈ opened.columns, _))

theorem Loaded.isLoaded {opened : Definition} (h : Loaded opened) {c : Column}
    (hc : c ∈ opened.columns) : c.IsLoaded :=
  ⟨(h c hc).1.2, (h c hc).2⟩

theorem Loaded.opens {opened : Definition} (h : Loaded opened) (hids : opened.columnIds.Nodup)
    (hnames : opened.columnNames.Nodup) : Opens opened :=
  ⟨hids, hnames, fun _ hc => (h.isLoaded hc).isRooted⟩

theorem isName_run {d : Draft} (hsnapshot : ∀ c ∈ d.snapshot.columns, IsName c.name)
    (hworking : ∀ c ∈ d.working.columns, IsName c.name) (ids : IdSupply) (es : List Edit) :
    ∀ c ∈ (d.run ids es).1.working.columns, IsName c.name := by
  exact forall_columns_run (p := fun c => IsName c.name) (fun h => h.isName) (fun h => h.isName)
    hsnapshot hworking ids es

theorem Loaded.namedApart {opened working : Definition} (h : Loaded opened)
    (hids : opened.columnIds.Nodup) (hnames : opened.columnNames.Nodup)
    (hworkingIds : working.columnIds.Nodup) (hworkingNames : working.columnNames.Nodup)
    (hgood : ∀ c ∈ working.columns, IsName c.name) : NamedApart opened working where
  snapshotIds := hids
  snapshotNames := hnames
  workingIds := hworkingIds
  workingNames := hworkingNames
  source b hb := by
    have htrim := (h b hb).1.1
    rw [(h.isLoaded hb).sourceName]
    exact ⟨htrim, htrim⟩
  trimmed c hc := (hgood c hc).1

theorem Tracks.namedApart {opened : Definition} {d : Draft} (h : Tracks opened d)
    (hopened : Opens opened) (hloaded : Loaded opened)
    (hnames : ∀ c ∈ d.working.columns, IsName c.name) : NamedApart opened d.working :=
  hloaded.namedApart hopened.ids hopened.names h.ids h.names hnames

/-- After any edits the column statements can be carried out exactly if every column of the working
set finds its name free when its turn comes; and then the table has the names of the working set. -/
theorem replay_columnOps_run (database table : String) {opened : Definition} (ids : IdSupply)
    (es : List Edit) (hids : opened.columnIds.Nodup) (hnames : opened.columnNames.Nodup)
    (hloaded : Loaded opened) (hfresh : (start database table opened).TakesUnused ids es) :
    let d := ((start database table opened).run ids es).1
    (NamesFree opened d.working →
      replay d.columnOps opened.columnNames.toFinset = some d.working.columnNames.toFinset) ∧
    (¬NamesFree opened d.working → replay d.columnOps opened.columnNames.toFinset = none) := by
  intro d
  have hopened := hloaded.opens hids hnames
  have htracks : Tracks opened d := (hopened.tracks database table).run hopened hfresh
  have hgood : ∀ c ∈ d.working.columns, IsName c.name := by
    apply isName_run
    · exact fun c hc => (hloaded c hc).1
    · exact fun c hc => (hloaded c hc).1
  have hreplay := (htracks.namedApart hopened hloaded hgood).replay_columnOps d.table
  rw [columnOps, htracks.snapshot]
  exact hreplay

/-- Names can move on along a chain, if the first column of it lets go first. -/
theorem replay_columnOps_run_chain :
    let a : Column := ⟨.number 1, "a", some "a", "int", none, none, true, false, false, false⟩
    let b : Column := { a with id := .number 2, name := "b", originalName := some "b" }
    let opened : Definition := ⟨[a, b], [], [], []⟩
    let edits := [Edit.renameColumn (.int 1) (.text "c"), Edit.renameColumn (.int 2) (.text "a")]
    let d := ((start "shop" "t" opened).run ⟨fun n => "#" ++ toString n, 0⟩ edits).1
    replay d.columnOps opened.columnNames.toFinset = some {"c", "a"} :=
  (replay_columnOps_run "shop" "t" _ _ (by decide +kernel) (by decide +kernel)
    (by decide +kernel) (by decide +kernel)).1 (by decide +kernel)

/-- A dropped column's name is taken until the plan is through, so a new column cannot have it,
though both edits succeed. -/
theorem replay_columnOps_reused_name :
    let c : Column := ⟨.number 1, "id", some "id", "INT", none, none, true, false, false, false⟩
    let opened : Definition :=
      ⟨[c, { c with id := .number 2, name := "a", originalName := some "a" }], [], [], []⟩
    let new : NewColumn := ⟨.text "a", .text "TEXT", .null, .null, .bool true, .bool false,
      .bool false, .bool false⟩
    let s := start "shop" "users" opened
    let ids : IdSupply := ⟨fun n => "gen" ++ toString n, 0⟩
    let edits := [Edit.dropColumn (.int 2), Edit.addColumn new]
    let d := (s.run ids edits).1
    opened.columnIds.Nodup ∧ opened.columnNames.Nodup ∧ Loaded opened ∧ s.TakesUnused ids edits ∧
      (s.outcome ids [] (.dropColumn (.int 2))).isOk = true ∧
      (s.outcome ids [.dropColumn (.int 2)] (.addColumn new)).isOk = true ∧
      d.columnOps = [.add "a", .drop "a"] ∧
      replay d.columnOps opened.columnNames.toFinset = none := by
  decide +kernel

end TableDraft.Draft
