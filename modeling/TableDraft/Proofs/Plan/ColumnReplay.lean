import TableDraft.Proofs.Diff.Members
import TableDraft.Proofs.Plan.ColumnOps

namespace TableDraft
open TableDraft.Text ColumnOp

/-- Two sets of columns whose statements name each column by a name of its own. -/
structure NamedApart (snapshot working : Definition) : Prop where
  snapshotIds : snapshot.columnIds.Nodup
  snapshotNames : snapshot.columnNames.Nodup
  workingIds : working.columnIds.Nodup
  workingNames : working.columnNames.Nodup
  source : ∀ b ∈ snapshot.columns, trimmed b.sourceName = b.name ∧ trimmed b.name = b.name
  trimmed : ∀ c ∈ working.columns, trimmed c.name = c.name

/-- No snapshot column but `w` itself has the name of `w`, unless it is one of the columns `l` that
come before `w`, and `w` is in the snapshot too. -/
def FreeAfter (snapshot : Definition) (l : List Column) (w : Column) : Prop :=
  ∀ b ∈ snapshot.columns, b.name = w.name →
    b.id = w.id ∨ (w.id ∈ snapshot.columnIds ∧ b.id ∈ l.map Column.id)

/-- Each of the columns `r` that come after `l` finds its name free when its turn comes. -/
def FreeAlong (snapshot : Definition) (l r : List Column) : Prop :=
  ∀ l' w r', r = l' ++ w :: r' → FreeAfter snapshot (l ++ l') w

def NamesFree (snapshot working : Definition) : Prop :=
  FreeAlong snapshot [] working.columns

/-- New columns have names that the snapshot has not. -/
def AddedFree (snapshot working : Definition) : Prop :=
  ∀ a ∈ working.columns, a.id ∉ snapshot.columnIds → ∀ b ∈ snapshot.columns, b.name ≠ a.name

/-- The names once the new columns are added and those in `l` are changed. -/
def Present (snapshot working : Definition) (l : List Column) (x : String) : Prop :=
  (∃ a ∈ working.columns, a.id ∉ snapshot.columnIds ∧ a.name = x) ∨
    (∃ b ∈ snapshot.columns, b.id ∉ l.map Column.id ∧ b.name = x) ∨
    ∃ c ∈ l, c.id ∈ snapshot.columnIds ∧ c.name = x

/-- A name that a column in `l` has now belongs to no column that is still to come. -/
def Settled (snapshot : Definition) (l : List Column) : Prop :=
  ∀ c ∈ l, ∀ b ∈ snapshot.columns, b.name = c.name → b.id ∈ l.map Column.id

variable {snapshot working : Definition}

theorem Settled.concat {l : List Column} {w : Column} (h : Settled snapshot l)
    (hw : FreeAfter snapshot l w) : Settled snapshot (l ++ [w]) := by
  intro c hc b hb hname
  rw [List.map_append, List.mem_append]
  obtain hc | hc := List.mem_append.1 hc
  · exact .inl (h c hc b hb hname)
  · rw [List.mem_singleton] at hc
    subst hc
    obtain hid | ⟨-, hid⟩ := hw b hb hname
    · exact .inr (by simp [hid])
    · exact .inl hid

theorem freeAlong_cons {l r : List Column} {w : Column} :
    FreeAlong snapshot l (w :: r) ↔ FreeAfter snapshot l w ∧ FreeAlong snapshot (l ++ [w]) r := by
  constructor
  · intro h
    refine ⟨by simpa using h [] w r rfl, ?_⟩
    rintro l' v r' rfl
    simpa using h (w :: l') v r' rfl
  · rintro ⟨hw, hr⟩ l' v r' hsplit
    cases l' with
    | nil =>
      cases hsplit
      simpa using hw
    | cons u l' =>
      obtain ⟨rfl, htail⟩ := List.cons.inj hsplit
      simpa using hr l' v r' htail

instance decidableFreeAfter (l : List Column) (w : Column) : Decidable (FreeAfter snapshot l w) :=
  inferInstanceAs (Decidable (∀ b ∈ snapshot.columns, b.name = w.name →
    b.id = w.id ∨ (w.id ∈ snapshot.columnIds ∧ b.id ∈ l.map Column.id)))

instance decidableFreeAlong : (l r : List Column) → Decidable (FreeAlong snapshot l r)
  | _, [] => .isTrue fun _ _ _ h => nomatch (List.append_eq_nil_iff.1 h.symm).2
  | l, w :: r =>
    have := decidableFreeAlong (l ++ [w]) r
    decidable_of_iff' _ freeAlong_cons

instance : Decidable (NamesFree snapshot working) :=
  decidableFreeAlong [] working.columns

theorem definitionChanged_of_name_ne {c : ColumnChange} (h : c.before.name ≠ c.after.name) :
    c.definitionChanged = true := by
  simp [ColumnChange.definitionChanged, h]

namespace NamedApart
open ColumnMatch

/-- The snapshot column of a working column, and what the plan does about the pair. -/
theorem changeOps_of_mem (h : NamedApart snapshot working) {b w : Column}
    (hb : b ∈ snapshot.columns) (hw : w ∈ working.columns) (hid : b.id = w.id) :
    Diff.changeOps snapshot w =
      if (ColumnChange.mk b w).definitionChanged then [.change b.name w.name] else [] := by
  have hpair : counterpart? snapshot.columns w = some b :=
    (counterpart?_eq_some_iff h.snapshotIds).2 ⟨hb, hid⟩
  rw [Diff.changeOps, hpair]
  simp only [(h.source b hb).1, h.trimmed w hw]

theorem changeOps_of_not_mem {w : Column} (hw : w.id ∉ snapshot.columnIds) :
    Diff.changeOps snapshot w = [] := by
  have hnone : counterpart? snapshot.columns w = none := by
    rw [counterpart?_eq_none_iff]
    rintro b hb hid
    exact hw (hid ▸ List.mem_map_of_mem hb)
  rw [Diff.changeOps, hnone]

section Step

variable {l r : List Column} {w b : Column} {s : Finset String}

theorem mem_working (hsplit : working.columns = l ++ w :: r) :
    w ∈ working.columns ∧ ∀ c ∈ l, c ∈ working.columns := by
  rw [hsplit]
  exact ⟨by simp, fun c hc => List.mem_append_left _ hc⟩

theorem id_not_mem (h : NamedApart snapshot working) (hsplit : working.columns = l ++ w :: r) :
    w.id ∉ l.map Column.id := by
  have hids := h.workingIds
  rw [Definition.columnIds, hsplit, List.map_append, List.nodup_append] at hids
  intro hmem
  exact hids.2.2 _ hmem _ (by simp) rfl

/-- Apart from the snapshot's own column nothing present has the name of `w`, if it is free. -/
theorem not_present (h : NamedApart snapshot working) (hsplit : working.columns = l ++ w :: r)
    (hb : b ∈ snapshot.columns) (hid : b.id = w.id) (hfree : FreeAfter snapshot l w)
    (hne : w.name ≠ b.name) : ¬Present snapshot working l w.name := by
  obtain ⟨hw, hl⟩ := mem_working hsplit
  have hsame : ∀ c ∈ working.columns, c.name = w.name → c = w := fun c hc hname =>
    List.inj_on_of_nodup_map h.workingNames hc hw hname
  rintro (⟨a, ha, hnew, hname⟩ | ⟨b', hb', hlate, hname⟩ | ⟨c, hc, -, hname⟩)
  · rw [hsame a ha hname, ← hid] at hnew
    exact hnew (List.mem_map_of_mem hb)
  · obtain hid' | ⟨-, hearly⟩ := hfree b' hb' hname
    · have := Column.eq_of_id_eq h.snapshotIds hb' hb (hid'.trans hid.symm)
      exact hne (by rw [← hname, this])
    · exact hlate hearly
  · have := hsame c (hl c hc) hname
    exact id_not_mem h hsplit (this ▸ List.mem_map_of_mem hc)

/-- Changing `w` moves its name in the set, which is what `Present` says of it. -/
theorem present_concat (h : NamedApart snapshot working) (hsplit : working.columns = l ++ w :: r)
    (hadded : AddedFree snapshot working) (hsettled : Settled snapshot l)
    (hb : b ∈ snapshot.columns) (hid : b.id = w.id) (x : String) :
    Present snapshot working (l ++ [w]) x ↔
      x = w.name ∨ (x ≠ b.name ∧ Present snapshot working l x) := by
  have hlate : b.id ∉ l.map Column.id := by
    rw [hid]
    exact id_not_mem h hsplit
  have hold : w.id ∈ snapshot.columnIds := hid ▸ List.mem_map_of_mem hb
  constructor
  · rintro (⟨a, ha, hnew, rfl⟩ | ⟨b', hb', hafter, rfl⟩ | ⟨c, hc, hcold, rfl⟩)
    · exact .inr ⟨(hadded a ha hnew b hb).symm, .inl ⟨a, ha, hnew, rfl⟩⟩
    · rw [List.map_append, List.mem_append, not_or] at hafter
      right
      refine ⟨fun hname => hafter.2 ?_, .inr (.inl ⟨b', hb', hafter.1, rfl⟩)⟩
      have : b' = b := List.inj_on_of_nodup_map h.snapshotNames hb' hb hname
      simp [this, hid]
    · obtain hc | hc := List.mem_append.1 hc
      · right
        refine ⟨fun hname => hlate ?_, .inr (.inr ⟨c, hc, hcold, rfl⟩)⟩
        exact hsettled c hc b hb hname.symm
      · rw [List.mem_singleton] at hc
        exact .inl (hc ▸ rfl)
  · rintro (rfl | ⟨hne, ⟨a, ha, hnew, rfl⟩ | ⟨b', hb', hafter, rfl⟩ | ⟨c, hc, hcold, rfl⟩⟩)
    · exact .inr (.inr ⟨w, by simp, hold, rfl⟩)
    · exact .inl ⟨a, ha, hnew, rfl⟩
    · refine .inr (.inl ⟨b', hb', ?_, rfl⟩)
      rw [List.map_append, List.mem_append, not_or]
      refine ⟨hafter, fun hmem => hne ?_⟩
      rw [List.map_singleton, List.mem_singleton, ← hid] at hmem
      rw [Column.eq_of_id_eq h.snapshotIds hb' hb hmem]
    · exact .inr (.inr ⟨c, List.mem_append_left _ hc, hcold, rfl⟩)

theorem present_concat_new (hnew : w.id ∉ snapshot.columnIds) (x : String) :
    Present snapshot working (l ++ [w]) x ↔ Present snapshot working l x := by
  have hother : ∀ b ∈ snapshot.columns,
      b.id ∉ (l ++ [w]).map Column.id ↔ b.id ∉ l.map Column.id := by
    intro b hb
    have hne : b.id ≠ w.id := by
      intro hid
      exact hnew (hid ▸ List.mem_map_of_mem hb)
    simp [hne]
  constructor
  · rintro (ha | ⟨b, hb, hafter, rfl⟩ | ⟨c, hc, hcold, rfl⟩)
    · exact .inl ha
    · exact .inr (.inl ⟨b, hb, (hother b hb).1 hafter, rfl⟩)
    · obtain hc | hc := List.mem_append.1 hc
      · exact .inr (.inr ⟨c, hc, hcold, rfl⟩)
      · rw [List.mem_singleton.1 hc] at hcold
        exact absurd hcold hnew
  · rintro (ha | ⟨b, hb, hafter, rfl⟩ | ⟨c, hc, hcold, rfl⟩)
    · exact .inl ha
    · exact .inr (.inl ⟨b, hb, (hother b hb).2 hafter, rfl⟩)
    · exact .inr (.inr ⟨c, List.mem_append_left _ hc, hcold, rfl⟩)

/-- What the plan does about `w` succeeds if the name of `w` is free. -/
theorem replay_of_free (h : NamedApart snapshot working) (hsplit : working.columns = l ++ w :: r)
    (hadded : AddedFree snapshot working) (hsettled : Settled snapshot l)
    (hs : ∀ x, x ∈ s ↔ Present snapshot working l x) (hfree : FreeAfter snapshot l w) :
    ∃ t, replay (Diff.changeOps snapshot w) s = some t ∧
      ∀ x, x ∈ t ↔ Present snapshot working (l ++ [w]) x := by
  by_cases hold : w.id ∈ snapshot.columnIds
  · obtain ⟨b, hb, hid⟩ := List.mem_map.1 hold
    have hthere : Present snapshot working l b.name :=
      .inr (.inl ⟨b, hb, hid ▸ id_not_mem h hsplit, rfl⟩)
    have hmoved := present_concat h hsplit hadded hsettled hb hid
    rw [changeOps_of_mem h hb (mem_working hsplit).1 hid]
    split
    next =>
      have hrun : b.name ∈ s ∧ (w.name = b.name ∨ w.name ∉ s) := by
        refine ⟨(hs _).2 hthere, ?_⟩
        rw [hs]
        exact or_iff_not_imp_left.2 (not_present h hsplit hb hid hfree)
      refine ⟨insert w.name (s.erase b.name), ?_, fun x => ?_⟩
      · rw [replay_cons, ColumnOp.run, if_pos hrun]
        rfl
      · rw [hmoved, Finset.mem_insert, Finset.mem_erase, hs]
    next hsame =>
      -- a column that is not changed keeps its name, so the set may stay as it is
      have hname : w.name = b.name := by
        by_contra hne
        exact hsame (definitionChanged_of_name_ne (Ne.symm hne))
      refine ⟨s, rfl, fun x => ?_⟩
      rw [hmoved, hs, hname]
      by_cases hx : x = b.name
      · simp [hx, hthere]
      · simp [hx]
  · rw [changeOps_of_not_mem hold]
    refine ⟨s, rfl, fun x => ?_⟩
    rw [hs, present_concat_new hold]

/-- It fails if the name is not free. -/
theorem replay_of_not_free (h : NamedApart snapshot working)
    (hsplit : working.columns = l ++ w :: r) (hadded : AddedFree snapshot working)
    (hs : ∀ x, x ∈ s ↔ Present snapshot working l x) (hfree : ¬FreeAfter snapshot l w) :
    replay (Diff.changeOps snapshot w) s = none := by
  have hw := (mem_working hsplit).1
  simp only [FreeAfter, not_forall, not_or, not_and] at hfree
  obtain ⟨b', hb', hname, hother, hlate⟩ := hfree
  have hold : w.id ∈ snapshot.columnIds := by
    by_contra hnew
    exact hadded w hw hnew b' hb' hname
  obtain ⟨b, hb, hid⟩ := List.mem_map.1 hold
  have hne : b.name ≠ w.name := by
    intro hsame
    have := List.inj_on_of_nodup_map h.snapshotNames hb hb' (hsame.trans hname.symm)
    exact hother (this ▸ hid)
  -- `b'` still has the name, for neither an addition nor an earlier change has touched it
  have htaken : w.name ∈ s := (hs _).2 (.inr (.inl ⟨b', hb', hlate hold, hname⟩))
  rw [changeOps_of_mem h hb hw hid, if_pos (definitionChanged_of_name_ne hne), replay_cons,
    ColumnOp.run, if_neg]
  · rfl
  · rintro ⟨-, hsame | hfree⟩
    · exact hne hsame.symm
    · exact hfree htaken

end Step

theorem replay_changes (h : NamedApart snapshot working) (hadded : AddedFree snapshot working)
    {l r : List Column} {s : Finset String} (hsplit : working.columns = l ++ r)
    (hsettled : Settled snapshot l) (hs : ∀ x, x ∈ s ↔ Present snapshot working l x) :
    (FreeAlong snapshot l r → ∃ t, replay (r.flatMap (Diff.changeOps snapshot)) s = some t ∧
        ∀ x, x ∈ t ↔ Present snapshot working working.columns x) ∧
      (¬FreeAlong snapshot l r → replay (r.flatMap (Diff.changeOps snapshot)) s = none) := by
  -- over the columns still to come, with `hs` and `hsettled` for those that are done
  induction r generalizing l s with
  | nil =>
    rw [List.append_nil] at hsplit
    refine ⟨fun _ => ⟨s, rfl, hsplit ▸ hs⟩, fun hnot => absurd ?_ hnot⟩
    intro l' w r' hnil
    simp at hnil
  | cons w r ih =>
    rw [List.flatMap_cons, replay_append, freeAlong_cons]
    by_cases hfree : FreeAfter snapshot l w
    · obtain ⟨t, ht, hmem⟩ := replay_of_free h hsplit hadded hsettled hs hfree
      rw [ht, Option.bind_some]
      simpa only [hfree, true_and] using ih (by simpa using hsplit) (hsettled.concat hfree) hmem
    · rw [replay_of_not_free h hsplit hadded hs hfree]
      exact ⟨fun hboth => absurd hboth.1 hfree, fun _ => rfl⟩

theorem addedFree_of_namesFree (hfree : NamesFree snapshot working) :
    AddedFree snapshot working := by
  intro a ha hnew b hb hname
  obtain ⟨l, r, hsplit⟩ := List.append_of_mem ha
  obtain hid | ⟨hold, -⟩ := hfree l a r hsplit b hb hname
  · exact hnew (hid ▸ List.mem_map_of_mem hb)
  · exact hnew hold

/-- No removed column has the name of one that is kept, for that name would not have been free. -/
theorem name_ne_of_removed (hfree : NamesFree snapshot working) {b c : Column}
    (hb : b ∈ snapshot.columns) (hgone : b.id ∉ working.columnIds) (hc : c ∈ working.columns) :
    b.name ≠ c.name := by
  intro hname
  obtain ⟨l, r, hsplit⟩ := List.append_of_mem hc
  apply hgone
  rw [Definition.columnIds]
  obtain hid | ⟨-, hid⟩ := hfree l c r hsplit b hb hname
  · exact hid ▸ List.mem_map_of_mem hc
  · rw [hsplit, List.map_append]
    exact List.mem_append_left _ hid

theorem map_op_trimmed (op : String → ColumnOp) (columns : List Column)
    (h : ∀ c ∈ columns, Text.trimmed c.name = c.name) :
    columns.map (fun c => op (Text.trimmed c.name)) = (columns.map Column.name).map op := by
  rw [List.map_map]
  refine List.map_congr_left fun c hc => ?_
  rw [h c hc]
  rfl

theorem replay_added (h : NamedApart snapshot working) (hadded : AddedFree snapshot working) :
    ∃ t, replay (((Diff.of snapshot working).addedColumns.map Column.name).map add)
        snapshot.columnNames.toFinset = some t ∧
      ∀ x, x ∈ t ↔ Present snapshot working [] x := by
  have hnames : ((Diff.of snapshot working).addedColumns.map Column.name).Nodup :=
    nodup_map_filter h.workingNames _
  have hfree : ∀ n ∈ (Diff.of snapshot working).addedColumns.map Column.name,
      n ∉ snapshot.columnNames.toFinset := by
    intro n hn hmem
    obtain ⟨a, ha, rfl⟩ := List.mem_map.1 hn
    obtain ⟨b, hb, hname⟩ := List.mem_map.1 (List.mem_toFinset.1 hmem)
    obtain ⟨hworking, hnew⟩ := Diff.mem_addedColumns_iff_id.1 ha
    exact hadded a hworking hnew b hb hname
  obtain ⟨t, ht, hmem⟩ := replay_adds hnames hfree
  refine ⟨t, ht, fun x => ?_⟩
  rw [hmem, List.mem_toFinset]
  constructor
  · rintro (hx | hx)
    · obtain ⟨b, hb, rfl⟩ := List.mem_map.1 hx
      exact .inr (.inl ⟨b, hb, List.not_mem_nil, rfl⟩)
    · obtain ⟨a, ha, rfl⟩ := List.mem_map.1 hx
      obtain ⟨hworking, hnew⟩ := Diff.mem_addedColumns_iff_id.1 ha
      exact .inl ⟨a, hworking, hnew, rfl⟩
  · rintro (⟨a, ha, hids, rfl⟩ | ⟨b, hb, -, rfl⟩ | ⟨c, hc, -⟩)
    · exact .inr (List.mem_map_of_mem (Diff.mem_addedColumns_iff_id.2 ⟨ha, hids⟩))
    · exact .inl (List.mem_map_of_mem hb)
    · cases hc

/-- Once all changes are made only the removed columns are left over. -/
theorem replay_removed (h : NamedApart snapshot working) (hfree : NamesFree snapshot working)
    {s : Finset String} (hs : ∀ x, x ∈ s ↔ Present snapshot working working.columns x) :
    replay (((Diff.of snapshot working).removedColumns.map Column.name).map drop) s =
      some working.columnNames.toFinset := by
  have hgone : ∀ b ∈ (Diff.of snapshot working).removedColumns,
      b ∈ snapshot.columns ∧ b.id ∉ working.columnIds :=
    fun b hb => Diff.mem_removedColumns_iff_id.1 hb
  have hnames : ((Diff.of snapshot working).removedColumns.map Column.name).Nodup :=
    nodup_map_filter h.snapshotNames _
  have hthere : ∀ n ∈ (Diff.of snapshot working).removedColumns.map Column.name, n ∈ s := by
    intro n hn
    obtain ⟨b, hb, rfl⟩ := List.mem_map.1 hn
    exact (hs _).2 (.inr (.inl ⟨b, (hgone b hb).1, (hgone b hb).2, rfl⟩))
  have hapart : ∀ c ∈ working.columns,
      c.name ∉ (Diff.of snapshot working).removedColumns.map Column.name := by
    intro c hc hmem
    obtain ⟨b, hb, hname⟩ := List.mem_map.1 hmem
    exact name_ne_of_removed hfree (hgone b hb).1 (hgone b hb).2 hc hname
  obtain ⟨t, ht, hmem⟩ := replay_drops hnames hthere
  rw [ht]
  congr 1
  ext x
  rw [hmem, hs, List.mem_toFinset]
  constructor
  · rintro ⟨⟨a, ha, -, rfl⟩ | ⟨b, hb, hkept, rfl⟩ | ⟨c, hc, -, rfl⟩, hx⟩
    · exact List.mem_map_of_mem ha
    · exact absurd (List.mem_map_of_mem (Diff.mem_removedColumns_iff_id.2 ⟨hb, hkept⟩)) hx
    · exact List.mem_map_of_mem hc
  · intro hx
    obtain ⟨c, hc, rfl⟩ := List.mem_map.1 hx
    refine ⟨?_, hapart c hc⟩
    by_cases hold : c.id ∈ snapshot.columnIds
    · exact .inr (.inr ⟨c, hc, hold, rfl⟩)
    · exact .inl ⟨c, hc, hold, rfl⟩

/-- The additions and changes can be carried out exactly if every name is free when its turn comes. -/
theorem replay_until_drops (h : NamedApart snapshot working) :
    let ops := (Diff.of snapshot working).addedColumns.map (fun c => add (Text.trimmed c.name)) ++
      working.columns.flatMap (Diff.changeOps snapshot)
    (NamesFree snapshot working → ∃ s, replay ops snapshot.columnNames.toFinset = some s ∧
        ∀ x, x ∈ s ↔ Present snapshot working working.columns x) ∧
      (¬NamesFree snapshot working → replay ops snapshot.columnNames.toFinset = none) := by
  intro ops
  have hadds := map_op_trimmed add (Diff.of snapshot working).addedColumns
    fun c hc => h.trimmed c (Diff.mem_addedColumns.1 hc).1
  simp only [ops, hadds, replay_append]
  by_cases hadded : AddedFree snapshot working
  · obtain ⟨s, hs, hpresent⟩ := replay_added h hadded
    have hsettled : Settled snapshot [] := fun c hc => nomatch hc
    rw [hs, Option.bind_some]
    exact replay_changes h hadded (l := []) rfl hsettled hpresent
  · refine ⟨fun hall => absurd (addedFree_of_namesFree hall) hadded, fun _ => ?_⟩
    simp only [AddedFree, not_forall, not_not] at hadded
    obtain ⟨a, ha, hnew, b, hb, hname⟩ := hadded
    have hmem : a ∈ (Diff.of snapshot working).addedColumns :=
      Diff.mem_addedColumns_iff_id.2 ⟨ha, hnew⟩
    rw [replay_adds_eq_none ⟨a.name, List.mem_map_of_mem hmem, ?_⟩]
    · rfl
    · rw [List.mem_toFinset, ← hname]
      exact List.mem_map_of_mem hb

/-- The column statements of a plan can be carried out exactly if every name is free when its turn
comes, and then they end with the names of the working set. -/
theorem replay_columnOps (h : NamedApart snapshot working) (table : String) :
    (NamesFree snapshot working →
      replay ((Diff.of snapshot working).columnOps table) snapshot.columnNames.toFinset =
        some working.columnNames.toFinset) ∧
    (¬NamesFree snapshot working →
      replay ((Diff.of snapshot working).columnOps table) snapshot.columnNames.toFinset =
        none) := by
  have hdrops := map_op_trimmed drop (Diff.of snapshot working).removedColumns
    fun b hb => (h.source b (Diff.mem_removedColumns.1 hb).1).2
  obtain ⟨hfree, hnot⟩ := replay_until_drops h
  rw [Diff.columnOps_eq, hdrops, replay_append]
  constructor
  · intro hall
    obtain ⟨s, hs, hmem⟩ := hfree hall
    rw [hs, Option.bind_some]
    exact replay_removed h hall hmem
  · intro hsome
    rw [hnot hsome]
    rfl

end NamedApart

end TableDraft
