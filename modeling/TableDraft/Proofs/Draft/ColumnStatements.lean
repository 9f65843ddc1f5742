import TableDraft.Proofs.Draft.Columns
import TableDraft.Proofs.Plan.ColumnStatements

namespace TableDraft

namespace Edit

/-- The edit adds, updates, renames or drops a column. -/
def isOnColumns : Edit → Bool
  | .addColumn _ | .updateColumn _ _ | .renameColumn _ _ | .dropColumn _ => true
  | _ => false

def isRename : Edit → Bool
  | .renameColumn _ _ => true
  | _ => false

theorem removesColumn_of_isRename {e : Edit} (h : e.isRename = true) (i : ColumnId) :
    e.removesColumn i = false := by
  cases e with
  | renameColumn => rfl
  | _ => cases h

theorem findColumn_of_mem {w : Definition} {id : Value} {c : Column} (hc : c ∈ w.columns)
    (hid : c.id.isValue id = true) : ∃ b, findColumn w id = .ok b := by
  have hfound : (w.columns.find? (·.id.isValue id)).isSome := List.find?_isSome.2 ⟨c, hc, hid⟩
  obtain ⟨b, hb⟩ := Option.isSome_iff_exists.1 hfound
  exact ⟨b, by rw [findColumn, hb]⟩

end Edit

namespace Draft

variable {opened : Definition} {d : Draft} {ids : IdSupply} {e : Edit} {es : List Edit}

theorem apply_of_isOnColumns (he : e.isOnColumns = true) (d : Draft) (ids : IdSupply) :
    ∃ columns, (d.apply ids e).2.1 = { d with working.columns := columns } := by
  obtain ⟨-, hsame⟩ | ⟨m, w, hmakes, -, hmade⟩ := d.apply_cases ids e
  · exact ⟨d.working.columns, hsame⟩
  rw [hmade]
  cases hmakes with
  | addColumn | updateColumn | renameColumn | dropColumn => exact ⟨_, rfl⟩
  | _ => cases he

theorem run_of_isOnColumns (hes : ∀ e ∈ es, e.isOnColumns = true) (d : Draft) (ids : IdSupply) :
    ∃ columns, (d.run ids es).1 = { d with working.columns := columns } := by
  refine run_induction (motive := fun t => ∃ columns, t = { d with working.columns := columns }) ?_
    ⟨d.working.columns, rfl⟩ ids
  rintro _ ids e he ⟨columns, rfl⟩
  exact apply_of_isOnColumns (hes e he) _ ids

theorem apply_dropColumn {id : Value} {c : Column} (hc : c ∈ d.working.columns)
    (hid : c.id.isValue id = true) : (d.apply ids (.dropColumn id)).1 = .ok .nothing := by
  obtain ⟨b, hb⟩ := Edit.findColumn_of_mem hc hid
  exact congrArg Prod.fst ((Editing.check_replace_eq_ok (s := (d, ids))).2 ⟨b, hb, rfl, rfl⟩)

/-- A drop that fails has found no column to drop. -/
theorem removesColumn_of_error {f : Failure} (h : (d.apply ids e).1 = .error f) {i : ColumnId}
    (hi : i ∈ d.working.columnIds) : e.removesColumn i = false := by
  cases e with
  | dropColumn id =>
    obtain ⟨c, hc, rfl⟩ := List.mem_map.1 hi
    refine Bool.eq_false_iff.2 fun hid => ?_
    rw [apply_dropColumn hc hid] at h
    cases h
  | discard => cases h
  | _ => rfl

/-- An id that was loaded stays until the edit that removes its column, and does not come back. -/
theorem mem_columnIds_apply {i : ColumnId} (hi : i ∈ d.snapshot.columnIds)
    (he : e.isOnColumns = true)
    (hfresh : (d.apply ids e).2.2.issued ≠ ids.issued → ¬d.Uses ids.next) :
    i ∈ (d.apply ids e).2.1.working.columnIds ↔
      i ∈ d.working.columnIds ∧ e.removesColumn i = false := by
  obtain ⟨⟨f, hf⟩, hsame⟩ | ⟨m, w, hmakes, hok, hmade⟩ := d.apply_cases ids e
  · rw [hsame]
    exact ⟨fun h => ⟨h, removesColumn_of_error hf h⟩, And.left⟩
  rw [hmade]
  cases hmakes with
  | @addColumn a c new =>
    have hne : i ≠ c.id := by
      rintro rfl
      rw [new.id] at hi
      exact unused_of_addColumn hok hfresh (.inl hi)
    show i ∈ (d.working.columns ++ [c]).map Column.id ↔ _
    rw [List.map_append, List.mem_append, List.map_singleton, List.mem_singleton, or_iff_left hne]
    exact (and_iff_left rfl).symm
  | updateColumn updated =>
    rw [Definition.columnIds_withColumn updated]
    exact (and_iff_left rfl).symm
  | renameColumn updated =>
    rw [Definition.columnIds_withColumn updated]
    exact (and_iff_left rfl).symm
  | @dropColumn id =>
    have hids : (d.working.columns.filter fun c => !c.id.isValue id).map Column.id =
        d.working.columnIds.filter (!·.isValue id) := by
      rw [Definition.columnIds, List.filter_map]
      rfl
    show i ∈ (d.working.columns.filter fun c => !c.id.isValue id).map Column.id ↔ _
    rw [hids, List.mem_filter, Bool.not_eq_true']
    exact Iff.rfl
  | _ => cases he

theorem mem_columnIds_run {i : ColumnId} (hi : i ∈ d.snapshot.columnIds)
    (hes : ∀ e ∈ es, e.isOnColumns = true) (hfresh : d.TakesUnused ids es) :
    i ∈ (d.run ids es).1.working.columnIds ↔
      i ∈ d.working.columnIds ∧ ∀ e ∈ es, e.removesColumn i = false := by
  induction es generalizing d ids with
  | nil => exact (and_iff_left nofun).symm
  | cons e r ih =>
    obtain ⟨he, hr⟩ := List.forall_mem_cons.1 hes
    have hi' : i ∈ (d.apply ids e).2.1.snapshot.columnIds := by
      rwa [snapshot_apply]
    rw [List.forall_mem_cons, ← and_assoc, ← mem_columnIds_apply hi he hfresh.1]
    exact ih hi' hr hfresh.2

/-- The loaded columns that are gone are those that an edit has removed. -/
theorem gone_run (database table : String) (hes : ∀ e ∈ es, e.isOnColumns = true)
    (hfresh : (start database table opened).TakesUnused ids es) :
    let d := ((start database table opened).run ids es).1
    opened.columns.filter (·.id ∉ d.working.columnIds) =
      opened.columns.filter fun b => es.any (·.removesColumn b.id) := by
  intro d
  refine List.filter_congr fun b hb => ?_
  have hb : b.id ∈ opened.columnIds := List.mem_map_of_mem hb
  have hleft := (mem_columnIds_run hb hes hfresh).trans (and_iff_right hb)
  rw [Bool.eq_iff_iff, decide_eq_true_iff, hleft, ← Bool.not_eq_false, List.any_eq_false]
  simp only [Bool.not_eq_true]

/-- The columns are those of `opened`, some of them under other names. -/
structure Renames (opened : Definition) (d : Draft) : Prop where
  ids : d.working.columnIds = opened.columnIds
  columns : ∀ c ∈ d.working.columns, ∀ b ∈ opened.columns, b.id = c.id →
    c = { b with name := c.name }

theorem Renames.apply (hd : Tracks opened d) (h : Renames opened d) (ids : IdSupply)
    (he : e.isRename = true) : Renames opened (d.apply ids e).2.1 := by
  obtain ⟨-, hsame⟩ | ⟨m, w, hmakes, -, hmade⟩ := d.apply_cases ids e
  · rwa [hsame]
  rw [hmade]
  cases hmakes with
  | @renameColumn id name current new updated renamed =>
    refine ⟨(Definition.columnIds_withColumn updated).trans h.ids, fun c hc b hb hid => ?_⟩
    obtain rfl | ⟨hc, -⟩ := Definition.mem_withColumn hc
    · have hcurrent := h.columns current updated.mem b hb (hid.trans updated.id)
      rw [renamed (hd.rooted current updated.mem), hcurrent]
    · exact h.columns c hc b hb hid
  | _ => cases he

theorem Renames.run (hopened : Opens opened) (hd : Tracks opened d) (h : Renames opened d)
    (hes : ∀ e ∈ es, e.isRename = true) (hfresh : d.TakesUnused ids es) :
    Renames opened (d.run ids es).1 := by
  refine (run_induction_unused (motive := fun d => Tracks opened d ∧ Renames opened d) ?_
    ⟨hd, h⟩ hfresh).2
  rintro d ids e he ⟨hd, h⟩ hunused
  exact ⟨hd.apply hopened hunused, h.apply hd ids (hes e he)⟩

theorem renames_start (hids : opened.columnIds.Nodup) (database table : String) :
    Renames opened (start database table opened) := by
  refine ⟨rfl, fun c hc b hb hid => ?_⟩
  rw [Column.eq_of_id_eq hids hb hc hid]

theorem Renames.added_eq_nil (h : Renames opened d) :
    d.working.columns.filter (·.id ∉ opened.columnIds) = [] :=
  Definition.filter_new_eq_nil h.ids

theorem removed_eq_nil_of_renames (hes : ∀ e ∈ es, e.isRename = true) (columns : List Column) :
    columns.filter (fun b => es.any (·.removesColumn b.id)) = [] := by
  rw [List.filter_eq_nil_iff]
  intro b _ hany
  obtain ⟨e, he, hremoves⟩ := List.any_eq_true.1 hany
  rw [Edit.removesColumn_of_isRename (hes e he)] at hremoves
  cases hremoves

theorem Renames.texts_kept (h : Renames opened d) (table : String) {c : ColumnChange}
    (hc : c ∈ opened.kept d.working) :
    c.texts table = if c.after.name = c.before.name then [] else [c.changeText table] := by
  obtain ⟨hbefore, hafter, hid⟩ := Definition.mem_kept hc
  cases c with
  | mk b c =>
    obtain ⟨n, rfl⟩ : ∃ n, c = { b with name := n } := ⟨c.name, h.columns c hafter b hbefore hid⟩
    exact ColumnChange.texts_renamed table b n b.originalName

/-- After any edits of columns the plan adds each new column, changes each column that is left from
what was loaded to what it is in the end, and drops each one that an edit took away. Of renames alone
nothing is left but the last name of each column, and of renames back nothing at all. -/
theorem statements_run (database table : String) {opened : Definition} (ids : IdSupply)
    (es : List Edit) (hids : opened.columnIds.Nodup) (hnames : opened.columnNames.Nodup)
    (hloaded : ∀ c ∈ opened.columns, c.IsLoaded) (hes : ∀ e ∈ es, e.isOnColumns = true)
    (hfresh : (start database table opened).TakesUnused ids es) :
    let d := ((start database table opened).run ids es).1
    d.plan.statements =
      (d.working.columns.filter (·.id ∉ opened.columnIds)).map (Column.addText table) ++
        (opened.kept d.working).flatMap (ColumnChange.texts table) ++
        (opened.columns.filter fun b => es.any (·.removesColumn b.id)).map
          (Column.dropText table) ∧
    ((∀ e ∈ es, e.isRename = true) →
      d.plan.statements = (opened.kept d.working).flatMap fun c =>
        if c.after.name = c.before.name then [] else [c.changeText table]) := by
  intro d
  obtain ⟨columns, hd⟩ := run_of_isOnColumns hes (start database table opened) ids
  have hall : d.plan.statements =
      (d.working.columns.filter (·.id ∉ opened.columnIds)).map (Column.addText table) ++
        (opened.kept d.working).flatMap (ColumnChange.texts table) ++
        (opened.columns.filter fun b => es.any (·.removesColumn b.id)).map
          (Column.dropText table) := by
    have hgone : opened.columns.filter (·.id ∉ d.working.columnIds) = _ :=
      gone_run database table hes hfresh
    rw [← hgone, show d = _ from hd]
    exact Plan.statements_of_columns database table hids (fun b hb => (hloaded b hb).sourceName)
      rfl rfl rfl
  refine ⟨hall, fun hrenames => ?_⟩
  have hopened : Opens opened := ⟨hids, hnames, fun c hc => (hloaded c hc).isRooted⟩
  have hrenamed : Renames opened d :=
    (renames_start hids database table).run hopened (hopened.tracks database table) hrenames hfresh
  rw [hall, hrenamed.added_eq_nil, removed_eq_nil_of_renames hrenames, List.map_nil, List.map_nil,
    List.nil_append, List.append_nil]
  exact List.flatMap_congr fun c hc => hrenamed.texts_kept table hc

/-- A rename and back, a new column under a name that was dropped, and a rename with a new index. -/
theorem statements_run_reused_name :
    let a : Column := ⟨.number 1, "a", some "a", "INT", none, none, true, false, false, false⟩
    let opened : Definition := ⟨[a, { a with id := .number 2, name := "b", originalName := some "b" },
      { a with id := .word "x", name := "c", originalName := some "c" }], [], [], []⟩
    let new : NewColumn := ⟨.text "c", .text "int", .null, .null, .bool true, .bool false,
      .bool false, .bool false⟩
    let edits : List Edit := [.renameColumn (.int 1) (.text "d"), .dropColumn (.text "x"),
      .updateColumn (.int 2) [("name", .text "a"), ("unique", .bool true)],
      .updateColumn (.int 2) [("name", .text "e")], .addColumn new,
      .renameColumn (.bool true) (.text "a")]
    let ids : IdSupply := ⟨fun n => "#" ++ toString n, 0⟩
    ((start "shop" "t" opened).run ids edits).1.plan.statements =
      ["ALTER TABLE `t` ADD COLUMN `c` INT NULL;", "ALTER TABLE `t` CHANGE COLUMN `b` `e` INT NULL;",
        "CREATE UNIQUE INDEX `uq_e` ON `t` (`e`);", "ALTER TABLE `t` DROP COLUMN `c`;"] := by
  intro a opened new edits ids
  have hfresh : (start "shop" "t" opened).TakesUnused ids edits := by
    decide +kernel
  have hrun := statements_run "shop" "t" ids edits (by decide) (by decide) (by decide) (by decide)
    hfresh
  exact hrun.1.trans (by decide +kernel)

end Draft

end TableDraft
