import TableDraft.Proofs.Draft.Run

namespace TableDraft

theorem Column.UpdatedIn.isName {w : Definition} {id : Value} {current c : Column}
    (h : UpdatedIn w id current c) (hcurrent : IsName current.name) : IsName c.name := by
  obtain hkept | ⟨hname, -⟩ := h.name
  · rw [hkept]
    exact hcurrent
  · exact hname

namespace Definition

variable {w : Definition} {id : Value} {current c : Column}

theorem mem_withColumn {d : Column} (h : d ∈ (w.withColumn id c).columns) :
    d = c ∨ (d ∈ w.columns ∧ d.id.isValue id = false) := by
  obtain ⟨b, hb, rfl⟩ := List.mem_map.1 h
  split
  next => exact .inl rfl
  next hid => exact .inr ⟨hb, Bool.eq_false_iff.2 hid⟩

theorem id_withColumn (h : Column.UpdatedIn w id current c) (d : Column) :
    (if d.id.isValue id then c else d).id = d.id := by
  split
  next hd => rw [h.id, Mark.eq_of_isValue h.found hd]
  next => rfl

theorem columnIds_withColumn (h : Column.UpdatedIn w id current c) :
    (w.withColumn id c).columnIds = w.columnIds := by
  show (w.columns.map fun d => if d.id.isValue id then c else d).map Column.id = _
  rw [List.map_map]
  exact List.map_congr_left fun d _ => id_withColumn h d

/-- Only the updated column has the id, so no name is taken twice. -/
theorem nodup_columnNames_withColumn (h : Column.UpdatedIn w id current c)
    (hids : w.columnIds.Nodup) (hnames : w.columnNames.Nodup) :
    (w.withColumn id c).columnNames.Nodup := by
  have hcurrent : ∀ d ∈ w.columns, d.id.isValue id = true → d = current := fun d hd hid =>
    Column.eq_of_id_eq hids hd h.mem (Mark.eq_of_isValue hid h.found)
  have hother : ∀ d ∈ w.columns, d.id.isValue id = false → c.name ≠ d.name := by
    intro d hd hid hn
    obtain hkept | ⟨-, hfree⟩ := h.name
    · have : current = d := List.inj_on_of_nodup_map hnames h.mem hd (hkept.symm.trans hn)
      rw [← this, h.found] at hid
      cases hid
    · exact hfree d hd hn.symm
  show ((w.columns.map fun d => if d.id.isValue id then c else d).map Column.name).Nodup
  rw [List.map_map]
  refine List.Nodup.map_on ?_ (List.Nodup.of_map _ hids)
  intro d hd e he hde
  simp only [Function.comp_apply] at hde
  -- the updated column stands for both, for one or for none of the two
  cases hdv : d.id.isValue id <;> cases hev : e.id.isValue id <;>
    simp only [hdv, hev, if_true, Bool.false_eq_true, if_false] at hde
  · exact List.inj_on_of_nodup_map hnames hd he hde
  · exact absurd hde.symm (hother d hd hdv)
  · exact absurd hde (hother e he hev)
  · rw [hcurrent d hd hdv, hcurrent e he hev]

end Definition

/-- The edit takes the column with this id away, by itself or with all other edits. -/
def Edit.removesColumn (i : ColumnId) : Edit → Bool
  | .dropColumn id => i.isValue id
  | .discard => true
  | _ => false

namespace Draft

variable {opened : Definition} {d : Draft}

/-- What new columns have, and updates do not take away, all columns keep. -/
theorem forall_columns_apply {p : Column → Prop}
    (hnew : ∀ {w ids c}, Column.NewIn w ids c → p c)
    (hupdated : ∀ {w id current c}, Column.UpdatedIn w id current c → p current → p c)
    (hsnapshot : ∀ c ∈ d.snapshot.columns, p c) (hworking : ∀ c ∈ d.working.columns, p c)
    (ids : IdSupply) (e : Edit) : ∀ c ∈ (d.apply ids e).2.1.working.columns, p c := by
  have hupdate : ∀ {id : Value} {current new : Column},
      Column.UpdatedIn d.working id current new →
      ∀ c ∈ (d.working.withColumn id new).columns, p c := by
    intro id current new h c hc
    obtain rfl | ⟨hc, -⟩ := Definition.mem_withColumn hc
    · exact hupdated h (hworking current h.mem)
    · exact hworking c hc
  obtain ⟨-, hsame⟩ | ⟨m, w, hmakes, -, hmade⟩ := d.apply_cases ids e
  · rwa [hsame]
  rw [hmade]
  cases hmakes with
  | addColumn new =>
    intro c hc
    obtain hc | hc := List.mem_append.1 hc
    · exact hworking c hc
    · rw [List.mem_singleton.1 hc]
      exact hnew new
  | updateColumn updated => exact hupdate updated
  | renameColumn updated => exact hupdate updated
  | dropColumn => exact fun c hc => hworking c (List.mem_filter.1 hc).1
  | discard => exact hsnapshot
  | _ => exact hworking

theorem forall_columns_run {p : Column → Prop}
    (hnew : ∀ {w ids c}, Column.NewIn w ids c → p c)
    (hupdated : ∀ {w id current c}, Column.UpdatedIn w id current c → p current → p c)
    (hsnapshot : ∀ c ∈ d.snapshot.columns, p c) (hworking : ∀ c ∈ d.working.columns, p c)
    (ids : IdSupply) (es : List Edit) : ∀ c ∈ (d.run ids es).1.working.columns, p c := by
  refine (run_induction (motive := fun d => (∀ c ∈ d.snapshot.columns, p c) ∧
    ∀ c ∈ d.working.columns, p c) (fun d ids e _ h => ⟨?_, ?_⟩) ⟨hsnapshot, hworking⟩ ids).2
  · rw [snapshot_apply]
    exact h.1
  · exact forall_columns_apply hnew hupdated h.1 h.2 ids e

theorem isRooted_of_newIn {w : Definition} {ids : IdSupply} {c : Column} (h : c.NewIn w ids) :
    c.IsRooted :=
  ⟨c.name, h.isName.2, h.original⟩

theorem isRooted_of_updatedIn {w : Definition} {id : Value} {current c : Column}
    (h : Column.UpdatedIn w id current c) (hc : current.IsRooted) : c.IsRooted := by
  rw [Column.IsRooted, h.original hc]
  exact hc

/-- The columns of a draft of `opened`, as edits leave them. -/
structure Tracks (opened : Definition) (d : Draft) : Prop where
  snapshot : d.snapshot = opened
  ids : d.working.columnIds.Nodup
  names : d.working.columnNames.Nodup
  rooted : ∀ c ∈ d.working.columns, c.IsRooted
  originals : ∀ c ∈ d.working.columns, ∀ b ∈ opened.columns, c.id = b.id →
    c.originalName = b.originalName

/-- A definition that can be edited: its columns have distinct ids and names, and names that the
server knows them by. -/
structure Opens (opened : Definition) : Prop where
  ids : opened.columnIds.Nodup
  names : opened.columnNames.Nodup
  rooted : ∀ c ∈ opened.columns, c.IsRooted

theorem Opens.tracks (h : Opens opened) (database table : String) :
    Tracks opened (start database table opened) where
  snapshot := rfl
  ids := h.ids
  names := h.names
  rooted := h.rooted
  originals c hc b hb hid := by
    rw [Column.eq_of_id_eq h.ids hc hb hid]

theorem Tracks.withColumn (h : Tracks opened d) {id : Value} {current c : Column}
    (hc : Column.UpdatedIn d.working id current c) :
    Tracks opened { d with working := d.working.withColumn id c } where
  snapshot := h.snapshot
  ids := by
    rw [Definition.columnIds_withColumn hc]
    exact h.ids
  names := Definition.nodup_columnNames_withColumn hc h.ids h.names
  rooted x hx := by
    obtain rfl | ⟨hx, -⟩ := Definition.mem_withColumn hx
    · exact isRooted_of_updatedIn hc (h.rooted current hc.mem)
    · exact h.rooted x hx
  originals x hx b hb hid := by
    obtain rfl | ⟨hx, -⟩ := Definition.mem_withColumn hx
    · rw [hc.original (h.rooted current hc.mem)]
      exact h.originals current hc.mem b hb (hc.id.symm.trans hid)
    · exact h.originals x hx b hb hid

theorem Tracks.addColumn (h : Tracks opened d) {ids : IdSupply} {c : Column}
    (hc : c.NewIn d.working ids) (hfresh : ¬d.Uses ids.next) :
    Tracks opened { d with working.columns := d.working.columns ++ [c] } := by
  obtain ⟨hsnapshot, hworking⟩ := not_or.1 hfresh
  have hnew : ∀ b ∈ d.working.columns, b.id ≠ c.id := by
    intro b hb hid
    apply hworking
    rw [← hc.id, ← hid]
    exact List.mem_map_of_mem hb
  refine ⟨h.snapshot, nodup_map_concat h.ids hnew, nodup_map_concat h.names hc.free, ?_, ?_⟩
  · intro x hx
    obtain hx | hx := List.mem_append.1 hx
    · exact h.rooted x hx
    · rw [List.mem_singleton.1 hx]
      exact isRooted_of_newIn hc
  · intro x hx b hb hid
    obtain hx | hx := List.mem_append.1 hx
    · exact h.originals x hx b hb hid
    · rw [List.mem_singleton.1 hx, hc.id] at hid
      rw [h.snapshot] at hsnapshot
      exact absurd (hid ▸ List.mem_map_of_mem hb) hsnapshot

/-- Every edit preserves the invariant, if only the id it takes is not in use. -/
theorem Tracks.apply (hopened : Opens opened) (h : Tracks opened d) {ids : IdSupply} {e : Edit}
    (hfresh : (d.apply ids e).2.2.issued ≠ ids.issued → ¬d.Uses ids.next) :
    Tracks opened (d.apply ids e).2.1 := by
  obtain ⟨-, hsame⟩ | ⟨m, w, hmakes, hok, hmade⟩ := d.apply_cases ids e
  · rwa [hsame]
  rw [hmade]
  cases hmakes with
  | addColumn new => exact h.addColumn new (unused_of_addColumn hok hfresh)
  | updateColumn updated => exact h.withColumn updated
  | renameColumn updated => exact h.withColumn updated
  | dropColumn =>
    refine ⟨h.snapshot, nodup_map_filter h.ids _, nodup_map_filter h.names _, ?_, ?_⟩
    · exact fun x hx => h.rooted x (List.mem_filter.1 hx).1
    · exact fun x hx => h.originals x (List.mem_filter.1 hx).1
  | discard =>
    rw [h.snapshot]
    exact hopened.tracks d.database d.table
  | _ => exact ⟨h.snapshot, h.ids, h.names, h.rooted, h.originals⟩

theorem Tracks.run (hopened : Opens opened) (h : Tracks opened d) {ids : IdSupply}
    {es : List Edit} (hfresh : d.TakesUnused ids es) : Tracks opened (d.run ids es).1 :=
  run_induction_unused (fun _ _ _ _ h hunused => h.apply hopened hunused) h hfresh

theorem Tracks.keeps (h : Tracks opened d) (ids : IdSupply) {e : Edit} {c : Column}
    (hc : c ∈ d.working.columns) (he : e.removesColumn c.id = false) :
    ∃ c' ∈ (d.apply ids e).2.1.working.columns,
      c'.id = c.id ∧ c'.originalName = c.originalName := by
  have hupdate : ∀ {id : Value} {current new : Column},
      Column.UpdatedIn d.working id current new →
      ∃ c' ∈ (d.working.withColumn id new).columns,
        c'.id = c.id ∧ c'.originalName = c.originalName := by
    intro id current new hnew
    refine ⟨_, List.mem_map_of_mem hc, ?_⟩
    split
    next hid =>
      -- ids are distinct, so the update has found the column itself
      have hsame : c = current :=
        Column.eq_of_id_eq h.ids hc hnew.mem (Mark.eq_of_isValue hid hnew.found)
      rw [hsame]
      exact ⟨hnew.id, hnew.original (h.rooted current hnew.mem)⟩
    next => exact ⟨rfl, rfl⟩
  obtain ⟨-, hsame⟩ | ⟨m, w, hmakes, -, hnew⟩ := d.apply_cases ids e
  · rw [hsame]
    exact ⟨c, hc, rfl, rfl⟩
  rw [hnew]
  cases hmakes with
  | addColumn => exact ⟨c, List.mem_append_left _ hc, rfl, rfl⟩
  | updateColumn updated => exact hupdate updated
  | renameColumn updated => exact hupdate updated
  | dropColumn =>
    rw [Edit.removesColumn] at he
    exact ⟨c, List.mem_filter.2 ⟨hc, by rw [he]; rfl⟩, rfl, rfl⟩
  | discard => cases he
  | _ => exact ⟨c, hc, rfl, rfl⟩

theorem Tracks.keeps_run (hopened : Opens opened) (h : Tracks opened d) {ids : IdSupply}
    {es : List Edit} (hfresh : d.TakesUnused ids es) {c : Column} (hc : c ∈ d.working.columns)
    (hes : ∀ e ∈ es, e.removesColumn c.id = false) :
    ∃ c' ∈ (d.run ids es).1.working.columns,
      c'.id = c.id ∧ c'.originalName = c.originalName := by
  refine (run_induction_unused (motive := fun d => Tracks opened d ∧ ∃ c' ∈ d.working.columns,
    c'.id = c.id ∧ c'.originalName = c.originalName) ?_ ⟨h, c, hc, rfl, rfl⟩ hfresh).2
  rintro d ids e he ⟨hd, b, hb, hid, horiginal⟩ hunused
  refine ⟨hd.apply hopened hunused, ?_⟩
  obtain ⟨c', hc', hid', horiginal'⟩ := hd.keeps ids hb (hid ▸ hes e he)
  exact ⟨c', hc', hid'.trans hid, horiginal'.trans horiginal⟩

end Draft

end TableDraft
