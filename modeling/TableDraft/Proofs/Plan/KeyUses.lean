import TableDraft.Proofs.Plan.ColumnReplay

namespace TableDraft
open TableDraft.Text

/-- A foreign key and the column it uses. -/
structure KeyUse where
  key : String
  column : String
  deriving DecidableEq

/-- The names of a table's columns, and the uses of them by its foreign keys. -/
structure TableLayout where
  columns : Finset String
  uses : List KeyUse

namespace ColumnOp

/-- The name, after the operation, of the column that was called `x`. -/
def follow : ColumnOp → String → String
  | change o n, x => if x = o then n else x
  | _, x => x

def followAll (ops : List ColumnOp) (x : String) : String :=
  ops.foldl (fun x op => op.follow x) x

/-- A name that no operation gives or takes away stays with its column, and with no other. -/
theorem followAll_eq_iff {ops : List ColumnOp} {n : String}
    (h : ∀ op ∈ ops, ∀ x, op.follow x = n ↔ x = n) (x : String) : followAll ops x = n ↔ x = n := by
  induction ops generalizing x with
  | nil => rfl
  | cons op r ih =>
    obtain ⟨hop, hr⟩ := List.forall_mem_cons.1 h
    rw [← hop x]
    exact ih hr (op.follow x)

end ColumnOp

namespace TableLayout

def of (d : Definition) : TableLayout :=
  ⟨d.columnNames.toFinset, d.foreignKeys.map fun k => ⟨k.constraintName, k.columnName⟩⟩

@[simp] theorem columns_of (d : Definition) : (of d).columns = d.columnNames.toFinset := rfl

def hasKey (t : TableLayout) (name : String) : Bool :=
  t.uses.any (·.key = name)

/-- The table after operations on its columns, which its keys follow. -/
def followOps (t : TableLayout) (ops : List ColumnOp) : Option TableLayout :=
  (ColumnOp.replay ops t.columns).map fun columns =>
    ⟨columns, t.uses.map fun u => { u with column := ColumnOp.followAll ops u.column }⟩

/-- The table after a statement, if that can be carried out: a new key needs a name of its own and a
column that is there. -/
def after? (t : TableLayout) : Statement → Option TableLayout
  | .addForeignKey _ k =>
    if t.hasKey (trimmed k.constraintName) = false ∧ trimmed k.columnName ∈ t.columns then
      some { t with uses := t.uses ++ [⟨trimmed k.constraintName, trimmed k.columnName⟩] }
    else none
  | .dropForeignKey _ k =>
    if t.hasKey (trimmed k.constraintName) then
      some { t with uses := t.uses.filter (·.key ≠ trimmed k.constraintName) }
    else none
  | s => t.followOps s.columnOp?.toList

def replay (t : TableLayout) (steps : List Statement) : Option TableLayout :=
  steps.foldlM after? t

/-- As far as the statements can be carried out, none drops a column while a foreign key uses it. -/
def DropsUnused (t : TableLayout) (steps : List Statement) : Prop :=
  ∀ before table c after u, steps = before ++ .dropColumn table c :: after →
    t.replay before = some u → ∀ use ∈ u.uses, use.column ≠ trimmed c.name

theorem followOps_append (t : TableLayout) (ops ops' : List ColumnOp) :
    t.followOps (ops ++ ops') = (t.followOps ops).bind (·.followOps ops') := by
  unfold followOps
  rw [ColumnOp.replay_append, Option.bind_map, Option.map_bind]
  refine Option.bind_congr fun columns _ => ?_
  simp only [Function.comp_apply, List.map_map, ColumnOp.followAll, List.foldl_append]
  rfl

theorem followOps_nil (t : TableLayout) : t.followOps [] = some t := by
  show some (⟨t.columns, t.uses.map id⟩ : TableLayout) = some t
  rw [List.map_id]

theorem exists_followOps_of_append {t : TableLayout} {ops ops' : List ColumnOp} {u : Finset String}
    (h : ColumnOp.replay (ops ++ ops') t.columns = some u) :
    ∃ columns, t.followOps ops = some ⟨columns, t.uses.map fun u =>
      { u with column := ColumnOp.followAll ops u.column }⟩ := by
  rw [ColumnOp.replay_append] at h
  obtain ⟨columns, hcolumns, -⟩ := Option.bind_eq_some_iff.1 h
  exact ⟨columns, by rw [followOps, hcolumns]; rfl⟩

end TableLayout

/-- The statement adds or drops a foreign key. -/
def Statement.isOnKeys : Statement → Bool
  | addForeignKey _ _ | dropForeignKey _ _ => true
  | _ => false

namespace TableLayout

/-- Until a statement on keys comes, the keys follow the columns. -/
theorem replay_of_not_isOnKeys (t : TableLayout) {steps : List Statement}
    (h : ∀ s ∈ steps, s.isOnKeys = false) :
    t.replay steps = t.followOps (steps.filterMap Statement.columnOp?) := by
  induction steps generalizing t with
  | nil => exact t.followOps_nil.symm
  | cons s r ih =>
    obtain ⟨hs, hr⟩ := List.forall_mem_cons.1 h
    have hafter : t.after? s = t.followOps s.columnOp?.toList := by
      cases s with
      | addForeignKey | dropForeignKey => cases hs
      | _ => rfl
    have hops : (s :: r).filterMap Statement.columnOp? =
        s.columnOp?.toList ++ r.filterMap Statement.columnOp? := by
      rw [List.filterMap_cons]
      cases s.columnOp? <;> rfl
    rw [hops, followOps_append, ← hafter]
    exact Option.bind_congr fun u _ => ih u hr

end TableLayout

theorem exists_append_of_not_mem {p q l r : List α} {x : α} (h : p ++ q = l ++ x :: r)
    (hx : x ∉ p) : ∃ m, l = p ++ m ∧ q = m ++ x :: r := by
  obtain ⟨m, rfl, hq⟩ | ⟨m, rfl, hm⟩ := List.append_eq_append_iff.1 h
  · exact ⟨m, rfl, hq⟩
  · cases m with
    | nil => exact ⟨[], by rw [List.append_nil, List.append_nil], hm.symm⟩
    | cons y m =>
      cases hm
      exact absurd (List.mem_append_right _ List.mem_cons_self) hx

theorem exists_append_cons_of_not_mem {p q l r : List α} {x : α} (h : p ++ q = l ++ x :: r)
    (hx : x ∉ q) : ∃ m, p = l ++ x :: m := by
  obtain ⟨m, rfl, rfl⟩ | ⟨m, rfl, hm⟩ := List.append_eq_append_iff.1 h
  · exact absurd (List.mem_append_right _ List.mem_cons_self) hx
  · cases m with
    | nil => exact absurd (List.nil_append q ▸ hm ▸ List.mem_cons_self) hx
    | cons y m =>
      cases hm
      exact ⟨m, rfl⟩

namespace Diff

/-- The additions and changes of columns, with which every plan begins. -/
def earlySteps (table : String) (d : Diff) : List Statement :=
  d.addedColumns.map (.addColumn table) ++ d.changedColumns.flatMap (ColumnChange.steps table)

theorem columnOp?_earlySteps (table : String) (snapshot working : Definition) :
    ((of snapshot working).earlySteps table).filterMap Statement.columnOp? =
      (of snapshot working).addedColumns.map (fun c => ColumnOp.add (trimmed c.name)) ++
        working.columns.flatMap (changeOps snapshot) := by
  rw [earlySteps, List.filterMap_append, columnOps_changed, List.filterMap_map]
  exact congrArg (· ++ _) (congrFun List.filterMap_eq_map _)

theorem isOnKeys_earlySteps {table : String} {d : Diff} {s : Statement}
    (h : s ∈ d.earlySteps table) : s.isOnKeys = false := by
  obtain h | h := List.mem_append.1 h
  · obtain ⟨c, -, rfl⟩ := List.mem_map.1 h
    rfl
  · obtain ⟨c, -, h⟩ := List.mem_flatMap.1 h
    obtain ⟨-, rfl⟩ | ⟨-, -, rfl⟩ | ⟨-, -, rfl⟩ := mem_columnSteps.1 h
    all_goals rfl

theorem dropColumn_not_mem_earlySteps {table own : String} {d : Diff} {c : Column} :
    .dropColumn own c ∉ d.earlySteps table := by
  simp only [earlySteps, List.mem_append, List.mem_map, List.mem_flatMap, mem_columnSteps,
    reduceCtorEq, and_false, exists_false, or_false, not_false_eq_true]

/-- The statements of a plan after those on columns. -/
def lateSteps (table : String) (d : Diff) : List Statement :=
  d.indexes.added.filterMap (Statement.createIndex? table) ++ d.indexes.removed.map (.dropIndex table) ++
    d.foreignKeys.added.map (.addForeignKey table) ++
    d.foreignKeys.removed.map (.dropForeignKey table) ++
    d.triggers.added.map (.createTrigger table) ++ d.triggers.removed.map .dropTrigger

theorem dropColumn_not_mem_lateSteps {table own : String} {d : Diff} {c : Column} :
    .dropColumn own c ∉ d.lateSteps table := by
  simp only [lateSteps, List.mem_append, List.mem_map, List.mem_filterMap, createIndex?_eq_some,
    reduceCtorEq, and_false, exists_false, or_false, not_false_eq_true]

theorem steps_eq (table : String) (d : Diff) : d.steps table =
    d.earlySteps table ++ (d.removedColumns.map (.dropColumn table) ++ d.lateSteps table) := by
  simp only [steps, earlySteps, lateSteps, List.append_assoc]

/-- Before a dropped column stand all additions and changes of columns, and no statement on keys. -/
theorem before_dropColumn {table own : String} {d : Diff} {before after : List Statement}
    {c : Column} (h : d.steps table = before ++ .dropColumn own c :: after) :
    d.earlySteps table <+: before ∧ ∀ s ∈ before, s.isOnKeys = false := by
  rw [steps_eq] at h
  obtain ⟨dropped, rfl, hlate⟩ := exists_append_of_not_mem h dropColumn_not_mem_earlySteps
  obtain ⟨rest, hdropped⟩ := exists_append_cons_of_not_mem hlate dropColumn_not_mem_lateSteps
  refine ⟨List.prefix_append _ _, fun s hs => ?_⟩
  obtain hs | hs := List.mem_append.1 hs
  · exact isOnKeys_earlySteps hs
  · have hs : s ∈ d.removedColumns.map (Statement.dropColumn table) := by
      rw [hdropped]
      exact List.mem_append_left _ hs
    obtain ⟨b, -, rfl⟩ := List.mem_map.1 hs
    rfl

end Diff

namespace NamedApart

variable {snapshot working : Definition}

/-- No operation gives the name of a removed column to another, nor takes it from the column. -/
theorem follow_removed (h : NamedApart snapshot working) (hfree : NamesFree snapshot working)
    {b : Column} (hb : b ∈ snapshot.columns) (hgone : b.id ∉ working.columnIds) (table : String) :
    ∀ op ∈ (Diff.of snapshot working).columnOps table, ∀ x, op.follow x = b.name ↔ x = b.name := by
  intro op hop x
  rw [Diff.columnOps_eq] at hop
  simp only [List.mem_append, List.mem_map, List.mem_flatMap] at hop
  obtain (⟨a, -, rfl⟩ | ⟨w, hw, hop⟩) | ⟨c, -, rfl⟩ := hop
  · rfl
  · have hnew : w.name ≠ b.name := (name_ne_of_removed hfree hb hgone hw).symm
    by_cases hold : w.id ∈ snapshot.columnIds
    · obtain ⟨o, ho, hid⟩ := List.mem_map.1 hold
      have hsource : o.name ≠ b.name := by
        intro hname
        have hsame : o = b := List.inj_on_of_nodup_map h.snapshotNames ho hb hname
        exact hgone (hsame ▸ hid ▸ List.mem_map_of_mem hw)
      rw [h.changeOps_of_mem ho hw hid] at hop
      split at hop
      · rw [List.mem_singleton.1 hop, ColumnOp.follow]
        split
        next hx => exact iff_of_false hnew (hx ▸ hsource)
        next => rfl
      · cases hop
    · rw [changeOps_of_not_mem hold] at hop
      cases hop
  · rfl

/-- A plan drops a column under a foreign key exactly if it gets as far as the drops and a column goes
that a foreign key of the snapshot uses. Keys are dropped after columns, so it does not matter whether
that key is to go too. -/
theorem dropsUnused_iff (h : NamedApart snapshot working) (table : String) :
    (TableLayout.of snapshot).DropsUnused ((Diff.of snapshot working).steps table) ↔
      (NamesFree snapshot working → ∀ k ∈ snapshot.foreignKeys, ∀ c ∈ snapshot.columns,
        k.columnName = c.name → c.id ∈ working.columnIds) := by
  obtain ⟨hfree, hnot⟩ := h.replay_until_drops
  constructor
  · intro hsafe hall k hk c hc hname
    by_contra hgone
    have hmem : Statement.dropColumn table c ∈ (Diff.of snapshot working).steps table :=
      Diff.mem_steps.2 (.dropColumn (Diff.mem_removedColumns_iff_id.2 ⟨hc, hgone⟩))
    obtain ⟨before, after, hsplit⟩ := List.append_of_mem hmem
    have hfollow := h.follow_removed hall hc hgone table
    have hreplay := (h.replay_columnOps table).1 hall
    rw [Diff.columnOps, hsplit, List.filterMap_append] at hfollow hreplay
    obtain ⟨columns, hcolumns⟩ :=
      TableLayout.exists_followOps_of_append (t := TableLayout.of snapshot) hreplay
    rw [← TableLayout.replay_of_not_isOnKeys _ (Diff.before_dropColumn hsplit).2] at hcolumns
    -- the use of the key has come through all operations before
    refine hsafe before table c after _ hsplit hcolumns
      ⟨k.constraintName, ColumnOp.followAll (before.filterMap Statement.columnOp?) k.columnName⟩ ?_ ?_
    · exact List.mem_map_of_mem (List.mem_map_of_mem hk)
    · rw [(h.source c hc).2]
      exact (ColumnOp.followAll_eq_iff (fun op hop => hfollow op (List.mem_append_left _ hop)) _).2 hname
  · intro hkept before own c after u hsplit hu use huse hdropped
    have hmem : Statement.dropColumn own c ∈ (Diff.of snapshot working).steps table := by
      rw [hsplit]
      exact List.mem_append_right _ List.mem_cons_self
    cases Diff.mem_steps.1 hmem with
    | dropColumn hc =>
      obtain ⟨hc, hgone⟩ := Diff.mem_removedColumns_iff_id.1 hc
      obtain ⟨⟨dropped, hbefore⟩, hkeys⟩ := Diff.before_dropColumn hsplit
      rw [TableLayout.replay_of_not_isOnKeys _ hkeys] at hu
      obtain ⟨columns, hcolumns, rfl⟩ := Option.map_eq_some_iff.1 hu
      by_cases hall : NamesFree snapshot working
      · obtain ⟨k', hk', rfl⟩ := List.mem_map.1 huse
        obtain ⟨k, hk, rfl⟩ := List.mem_map.1 hk'
        have hfollow := h.follow_removed hall hc hgone table
        rw [Diff.columnOps, hsplit, List.filterMap_append] at hfollow
        rw [(h.source c hc).2, ColumnOp.followAll_eq_iff
          fun op hop => hfollow op (List.mem_append_left _ hop)] at hdropped
        exact hgone (hkept hall k hk c hc hdropped)
      · -- the plan has stopped before
        rw [← hbefore, List.filterMap_append, Diff.columnOp?_earlySteps, ColumnOp.replay_append,
          TableLayout.columns_of, hnot hall] at hcolumns
        cases hcolumns

end NamedApart

end TableDraft
