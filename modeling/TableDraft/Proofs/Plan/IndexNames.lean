import TableDraft.Proofs.Plan.ColumnReplay
import TableDraft.Proofs.Statement.Pieces
import TableDraft.Proofs.Text.Trim

namespace TableDraft
open TableDraft.Text

/-- An index as a statement names it. One that backs the uniqueness of a column is named after it. -/
structure IndexMention where
  backing : Bool
  name : String
  deriving DecidableEq

def Index.mention (i : Index) : IndexMention :=
  ⟨false, trimmed i.name⟩

namespace Statement

def createdIndex? : Statement → Option IndexMention
  | addUnique _ c => some ⟨true, trimmed (uniqueIndexName c.name)⟩
  | createIndex _ i => some i.mention
  | _ => none

def droppedIndex? : Statement → Option IndexMention
  | dropUnique _ b => some ⟨true, trimmed (uniqueIndexName b.sourceName)⟩
  | dropIndex _ i => some i.mention
  | _ => none

def isOnIndexes : Statement → Bool
  | addUnique .. | dropUnique .. | createIndex .. | dropIndex .. => true
  | _ => false

/-- What a statement begins with that creates an index. -/
def creatingWords : List String :=
  ["CREATE INDEX ", "CREATE UNIQUE INDEX ", "CREATE FULLTEXT INDEX "]

theorem mem_creatingWords (i : Index) : "CREATE " ++ i.kindWord ++ "INDEX " ∈ creatingWords := by
  unfold Index.kindWord
  split_ifs <;> decide

/-- No other statement begins like one that creates an index, and the name of the index is next. -/
theorem name_createdIndex?_eq_some {s : Statement} {n : String} :
    s.createdIndex?.map IndexMention.name = some n ↔
      s.opening.words ∈ creatingWords ∧ trimmed s.opening.name = n := by
  cases s with
  | createIndex t i => simp [createdIndex?, Index.mention, opening, mem_creatingWords]
  | _ => simp [createdIndex?, opening, creatingWords]

theorem name_droppedIndex?_eq_some {s : Statement} {n : String} :
    s.droppedIndex?.map IndexMention.name = some n ↔
      s.opening.words = "DROP INDEX " ∧ trimmed s.opening.name = n := by
  cases s with
  | createIndex t i =>
    have hwords : "CREATE " ++ i.kindWord ++ "INDEX " ≠ "DROP INDEX " := fun he =>
      absurd (he ▸ mem_creatingWords i) (by decide)
    simp [droppedIndex?, opening, hwords]
  | _ => simp [droppedIndex?, Index.mention, opening]

end Statement

theorem trimmed_uniqueIndexName {n : String} (h : trimmed n = n) :
    trimmed (uniqueIndexName n) = uniqueIndexName n := by
  have hn : Trimmed n.toList := by
    rw [← h, toList_trimmed]
    exact trim_trimmed _
  have htrimmed : Trimmed (uniqueIndexName n).toList := by
    rw [uniqueIndexName, String.toList_append]
    refine ⟨fun c hc => by cases hc; decide, fun c hc => ?_⟩
    rw [List.getLast?_append, Option.mem_def, Option.or_eq_some_iff] at hc
    rcases hc with hc | ⟨-, hc⟩
    · exact hn.2 c hc
    · cases hc
      decide
  rw [← String.toList_inj, toList_trimmed, trim_eq_self htrimmed]

theorem uniqueIndexName_inj {m n : String} : uniqueIndexName m = uniqueIndexName n ↔ m = n :=
  String.append_right_inj "uq_"

namespace IndexMention

section
variable {backing : List IndexMention} {indexes : List Index}
  (hbackings : (backing.map name).Nodup) (hnames : (indexes.map Index.name).Nodup)
  (hgood : ∀ i ∈ indexes, trimmed i.name = i.name)
include hbackings hnames hgood

/-- If each source gives its names once, a name can come twice only by coming from both. -/
theorem pairwise_append (hbacking : ∀ m ∈ backing, m.backing = true) :
    (backing ++ indexes.map Index.mention).Pairwise fun m n =>
      m.name = n.name → m.backing = true ∧ n.backing = false := by
  -- within a source no two names are the same, and across them there is nothing left to show
  refine List.pairwise_append.2 ⟨?_, ?_, ?_⟩
  · exact (List.pairwise_map.1 hbackings).imp fun hne hsame => absurd hsame hne
  · refine List.pairwise_map.2 ((List.pairwise_map.1 hnames).imp_of_mem fun hi hj hne hsame => ?_)
    exact absurd ((hgood _ hi).symm.trans (hsame.trans (hgood _ hj))) hne
  · rintro m hm n hn -
    obtain ⟨i, -, rfl⟩ := List.mem_map.1 hn
    exact ⟨hbacking m hm, rfl⟩

/-- Of `all` indexes those are created that are not among the `others`, and so it is for dropping. -/
theorem nodup_append {all : List Index} {others : List String}
    (hindexes : ∀ i, i ∈ indexes ↔ i ∈ all ∧ i.name ∉ others) :
    ((backing ++ indexes.map Index.mention).map name).Nodup ↔
      ∀ m ∈ backing, m.name ∈ all.map Index.name → m.name ∈ others := by
  have hsame : (indexes.map Index.mention).map name = indexes.map Index.name := by
    rw [List.map_map]
    exact List.map_congr_left hgood
  have happart : (∀ m ∈ backing.map name, ∀ n ∈ indexes.map Index.name, m ≠ n) ↔
      ∀ m ∈ backing, m.name ∉ indexes.map Index.name := by
    rw [List.forall_mem_map]
    exact forall₂_congr fun m _ => ⟨fun h hm => h _ hm rfl, fun h n hn he => h (he ▸ hn)⟩
  have hmem : ∀ n, n ∈ indexes.map Index.name ↔ n ∈ all.map Index.name ∧ n ∉ others := by
    intro n
    simp only [List.mem_map, hindexes]
    constructor
    · rintro ⟨i, ⟨hi, hfree⟩, rfl⟩
      exact ⟨⟨i, hi, rfl⟩, hfree⟩
    · rintro ⟨⟨i, hi, rfl⟩, hfree⟩
      exact ⟨i, ⟨hi, hfree⟩, rfl⟩
  rw [List.map_append, hsame, List.nodup_append, happart]
  simp only [hbackings, hnames, true_and, hmem, not_and, not_not]

end

end IndexMention

namespace ColumnChange

def created? (c : ColumnChange) : Option IndexMention :=
  if c.uniqueChanged && c.after.unique then some ⟨true, trimmed (uniqueIndexName c.after.name)⟩
  else none

def dropped? (c : ColumnChange) : Option IndexMention :=
  if c.uniqueChanged && !c.after.unique then
    some ⟨true, trimmed (uniqueIndexName c.before.sourceName)⟩
  else none

theorem created?_eq_some {c : ColumnChange} {m : IndexMention} : c.created? = some m ↔
    c.before.unique = false ∧ c.after.unique = true ∧
      m = ⟨true, trimmed (uniqueIndexName c.after.name)⟩ := by
  unfold created? uniqueChanged
  cases c.before.unique <;> cases c.after.unique <;> simp [eq_comm]

theorem dropped?_eq_some {c : ColumnChange} {m : IndexMention} : c.dropped? = some m ↔
    c.before.unique = true ∧ c.after.unique = false ∧
      m = ⟨true, trimmed (uniqueIndexName c.before.sourceName)⟩ := by
  unfold dropped? uniqueChanged
  cases c.before.unique <;> cases c.after.unique <;> simp [eq_comm]

theorem createdIndex?_steps (table : String) (c : ColumnChange) :
    (c.steps table).filterMap Statement.createdIndex? = c.created?.toList := by
  unfold steps created?
  cases c.definitionChanged <;> cases c.uniqueChanged <;> cases c.after.unique <;> rfl

theorem droppedIndex?_steps (table : String) (c : ColumnChange) :
    (c.steps table).filterMap Statement.droppedIndex? = c.dropped?.toList := by
  unfold steps dropped?
  cases c.definitionChanged <;> cases c.uniqueChanged <;> cases c.after.unique <;> rfl

end ColumnChange

namespace Diff

variable {snapshot working : Definition} {table : String}

/-- Where only statements on indexes count, the other kinds of steps do not. -/
theorem filterMap_steps {f : Statement → Option α} (h : ∀ s, s.isOnIndexes = false → f s = none)
    (table : String) (d : Diff) : (d.steps table).filterMap f =
      (d.changedColumns.flatMap fun c => (c.steps table).filterMap f) ++
        (d.indexes.added.filterMap (Statement.createIndex? table)).filterMap f ++
          d.indexes.removed.filterMap (fun i => f (.dropIndex table i)) := by
  have hothers : ∀ {β : Type} (g : β → Statement) (items : List β),
      (∀ x, (g x).isOnIndexes = false) → (items.map g).filterMap f = [] := by
    intro β g items hg
    rw [List.filterMap_map, List.filterMap_eq_nil_iff]
    exact fun x _ => h (g x) (hg x)
  simp only [steps, List.filterMap_append, List.filterMap_flatMap]
  rw [hothers (Statement.addColumn table) _ fun _ => rfl,
    hothers (Statement.dropColumn table) _ fun _ => rfl,
    hothers (Statement.addForeignKey table) _ fun _ => rfl,
    hothers (Statement.dropForeignKey table) _ fun _ => rfl,
    hothers (Statement.createTrigger table) _ fun _ => rfl,
    hothers Statement.dropTrigger _ fun _ => rfl, List.filterMap_map]
  simp only [List.append_nil, List.nil_append]
  rfl

/-- Created are the indexes of columns that became unique, and new ones that have columns. -/
theorem createdIndexes_eq (table : String) (d : Diff) :
    (d.steps table).filterMap Statement.createdIndex? =
      d.changedColumns.filterMap ColumnChange.created? ++
        (d.indexes.added.filter fun i => !i.columns.isEmpty).map Index.mention := by
  have hnew : (d.indexes.added.filterMap (Statement.createIndex? table)).filterMap
      Statement.createdIndex? =
        (d.indexes.added.filter fun i => !i.columns.isEmpty).map Index.mention := by
    rw [List.filterMap_filterMap, ← List.filterMap_eq_map, List.filterMap_filter]
    refine List.filterMap_congr fun i _ => ?_
    unfold Statement.createIndex?
    cases i.columns.isEmpty <;> rfl
  have hnone : d.indexes.removed.filterMap
      (fun i => (Statement.dropIndex table i).createdIndex?) = [] :=
    List.filterMap_eq_nil_iff.2 fun _ _ => rfl
  rw [filterMap_steps (fun s hs => by cases s <;> first | rfl | cases hs), hnew, hnone,
    List.append_nil, List.filterMap_eq_flatMap_toList]
  simp only [ColumnChange.createdIndex?_steps]

/-- Dropped are the indexes of columns that are no longer unique, and those that are gone. -/
theorem droppedIndexes_eq (table : String) (d : Diff) :
    (d.steps table).filterMap Statement.droppedIndex? =
      d.changedColumns.filterMap ColumnChange.dropped? ++
        d.indexes.removed.map Index.mention := by
  have hnone : (d.indexes.added.filterMap (Statement.createIndex? table)).filterMap
      Statement.droppedIndex? = [] := by
    refine List.filterMap_eq_nil_iff.2 fun s hs => ?_
    obtain ⟨i, -, hi⟩ := List.mem_filterMap.1 hs
    rw [(createIndex?_eq_some.1 hi).2]
    rfl
  have hgone : d.indexes.removed.filterMap
      (fun i => (Statement.dropIndex table i).droppedIndex?) =
        d.indexes.removed.map Index.mention :=
    congrFun List.filterMap_eq_map _
  rw [filterMap_steps (fun s hs => by cases s <;> first | rfl | cases hs), hnone, hgone,
    List.append_nil, List.filterMap_eq_flatMap_toList]
  simp only [ColumnChange.droppedIndex?_steps]

/-- What tells the columns of the working set apart tells the changes apart. -/
theorem pairwise_afters {key : Column → α} (h : (working.columns.map key).Nodup) :
    (of snapshot working).changedColumns.Pairwise fun c e => key c.after ≠ key e.after := by
  have hnodup := h.sublist ((afters_sublist snapshot working).map key)
  rwa [List.map_map, List.Nodup, List.pairwise_map] at hnodup

section
variable (h : NamedApart snapshot working) (hsource : ∀ b ∈ snapshot.columns, b.sourceName = b.name)

theorem exists_changed_of_unique (hids : snapshot.columnIds.Nodup) {b c : Column}
    (hb : b ∈ snapshot.columns) (hc : c ∈ working.columns) (hid : c.id = b.id)
    (hunique : b.unique ≠ c.unique) : ⟨b, c⟩ ∈ (of snapshot working).changedColumns := by
  refine mem_changedColumns.2 ⟨hc, (ColumnMatch.counterpart?_eq_some_iff hids).2 ⟨hb, hid.symm⟩, ?_⟩
  rw [ColumnChange.differs, Bool.or_eq_true]
  exact .inr (bne_iff_ne.2 hunique)

include h in
theorem mem_created {m : IndexMention} :
    m ∈ (of snapshot working).changedColumns.filterMap ColumnChange.created? ↔
      ∃ b ∈ snapshot.columns, ∃ c ∈ working.columns, c.id = b.id ∧ b.unique = false ∧
        c.unique = true ∧ m = ⟨true, uniqueIndexName c.name⟩ := by
  rw [List.mem_filterMap]
  constructor
  · rintro ⟨c, hc, hm⟩
    obtain ⟨hb, ha, hid⟩ := sides_of_changed hc
    obtain ⟨hbefore, hafter, rfl⟩ := ColumnChange.created?_eq_some.1 hm
    refine ⟨c.before, hb, c.after, ha, hid.symm, hbefore, hafter, ?_⟩
    rw [trimmed_uniqueIndexName (h.trimmed _ ha)]
  · rintro ⟨b, hb, c, hc, hid, hbefore, hafter, rfl⟩
    have hne : b.unique ≠ c.unique := by simp [hbefore, hafter]
    refine ⟨⟨b, c⟩, exists_changed_of_unique h.snapshotIds hb hc hid hne, ?_⟩
    rw [ColumnChange.created?_eq_some, trimmed_uniqueIndexName (h.trimmed c hc)]
    exact ⟨hbefore, hafter, rfl⟩

include h hsource in
theorem mem_dropped {m : IndexMention} :
    m ∈ (of snapshot working).changedColumns.filterMap ColumnChange.dropped? ↔
      ∃ b ∈ snapshot.columns, ∃ c ∈ working.columns, c.id = b.id ∧ b.unique = true ∧
        c.unique = false ∧ m = ⟨true, uniqueIndexName b.name⟩ := by
  rw [List.mem_filterMap]
  constructor
  · rintro ⟨c, hc, hm⟩
    obtain ⟨hb, ha, hid⟩ := sides_of_changed hc
    obtain ⟨hbefore, hafter, rfl⟩ := ColumnChange.dropped?_eq_some.1 hm
    refine ⟨c.before, hb, c.after, ha, hid.symm, hbefore, hafter, ?_⟩
    rw [hsource _ hb, trimmed_uniqueIndexName (h.source _ hb).2]
  · rintro ⟨b, hb, c, hc, hid, hbefore, hafter, rfl⟩
    have hne : b.unique ≠ c.unique := by simp [hbefore, hafter]
    refine ⟨⟨b, c⟩, exists_changed_of_unique h.snapshotIds hb hc hid hne, ?_⟩
    rw [ColumnChange.dropped?_eq_some, hsource b hb, trimmed_uniqueIndexName (h.source b hb).2]
    exact ⟨hbefore, hafter, rfl⟩

include h in
theorem nodup_created :
    (((of snapshot working).changedColumns.filterMap ColumnChange.created?).map
      IndexMention.name).Nodup := by
  refine List.pairwise_map.2 (List.pairwise_filterMap.2
    ((pairwise_afters h.workingNames).imp_of_mem ?_))
  -- created indexes are named after columns of the working set, whose names differ
  intro c e hc he hne m hm n hn hsame
  obtain ⟨-, -, rfl⟩ := ColumnChange.created?_eq_some.1 hm
  obtain ⟨-, -, rfl⟩ := ColumnChange.created?_eq_some.1 hn
  dsimp only at hsame
  rw [trimmed_uniqueIndexName (h.trimmed _ (sides_of_changed hc).2.1),
    trimmed_uniqueIndexName (h.trimmed _ (sides_of_changed he).2.1), uniqueIndexName_inj] at hsame
  exact hne hsame

include h hsource in
theorem nodup_dropped :
    (((of snapshot working).changedColumns.filterMap ColumnChange.dropped?).map
      IndexMention.name).Nodup := by
  refine List.pairwise_map.2 (List.pairwise_filterMap.2
    ((pairwise_afters h.workingIds).imp_of_mem ?_))
  intro c e hc he hne m hm n hn hsame
  obtain ⟨-, -, rfl⟩ := ColumnChange.dropped?_eq_some.1 hm
  obtain ⟨-, -, rfl⟩ := ColumnChange.dropped?_eq_some.1 hn
  obtain ⟨hcb, -, hcid⟩ := sides_of_changed hc
  obtain ⟨heb, -, heid⟩ := sides_of_changed he
  dsimp only at hsame
  rw [hsource _ hcb, hsource _ heb, trimmed_uniqueIndexName (h.source _ hcb).2,
    trimmed_uniqueIndexName (h.source _ heb).2, uniqueIndexName_inj] at hsame
  -- columns of one name are one column, and so are those that they have become
  have hbefore := List.inj_on_of_nodup_map h.snapshotNames hcb heb hsame
  rw [← hcid, ← heid, hbefore] at hne
  exact hne rfl

end

/-- No name is created twice by columns or twice by indexes, and one by both only if a column that
becomes unique meets a new index that is named after it. -/
theorem created_indexes (h : NamedApart snapshot working) (hnames : working.indexNames.Nodup)
    (hgood : ∀ i ∈ working.indexes, trimmed i.name = i.name)
    (hcolumns : ∀ i ∈ working.indexes, i.name ∉ snapshot.indexNames → i.columns ≠ [])
    (table : String) :
    let created := ((of snapshot working).steps table).filterMap Statement.createdIndex?
    (created.Pairwise fun m n => m.name = n.name → m.backing = true ∧ n.backing = false) ∧
      ((created.map IndexMention.name).Nodup ↔
        ∀ b ∈ snapshot.columns, ∀ c ∈ working.columns, c.id = b.id → b.unique = false →
          c.unique = true → uniqueIndexName c.name ∈ working.indexNames →
            uniqueIndexName c.name ∈ snapshot.indexNames) := by
  let new := (of snapshot working).indexes.added.filter fun i => !i.columns.isEmpty
  have hnew : ∀ i, i ∈ new ↔ i ∈ working.indexes ∧ i.name ∉ snapshot.indexNames := by
    intro i
    simp only [new, of, List.mem_filter, NameMatch.mem_added, Bool.not_eq_true',
      List.isEmpty_eq_false_iff, Definition.indexNames, List.mem_map, not_exists, not_and]
    exact ⟨And.left, fun hi => ⟨hi, hcolumns i hi.1 (by simpa [Definition.indexNames] using hi.2)⟩⟩
  have hnewNames : (new.map Index.name).Nodup := nodup_map_filter (nodup_map_filter hnames _) _
  have hnewGood : ∀ i ∈ new, trimmed i.name = i.name := fun i hi => hgood i ((hnew i).1 hi).1
  have hbacking : ∀ m ∈ (of snapshot working).changedColumns.filterMap ColumnChange.created?,
      m.backing = true := by
    intro m hm
    obtain ⟨b, -, c, -, -, -, -, rfl⟩ := (mem_created h).1 hm
    rfl
  intro created
  rw [show created = _ from createdIndexes_eq table _]
  refine ⟨IndexMention.pairwise_append (nodup_created h) hnewNames hnewGood hbacking,
    (IndexMention.nodup_append (nodup_created h) hnewNames hnewGood hnew).trans ⟨?_, ?_⟩⟩
  · intro hclear b hb c hc hid hbefore hafter
    exact hclear _ ((mem_created h).2 ⟨b, hb, c, hc, hid, hbefore, hafter, rfl⟩)
  · intro hclear m hm
    obtain ⟨b, hb, c, hc, hid, hbefore, hafter, rfl⟩ := (mem_created h).1 hm
    exact hclear b hb c hc hid hbefore hafter

/-- The same for dropping: a column that is no longer unique can meet an index that is gone. -/
theorem dropped_indexes (h : NamedApart snapshot working)
    (hsource : ∀ b ∈ snapshot.columns, b.sourceName = b.name) (hnames : snapshot.indexNames.Nodup)
    (hgood : ∀ i ∈ snapshot.indexes, trimmed i.name = i.name) (table : String) :
    let dropped := ((of snapshot working).steps table).filterMap Statement.droppedIndex?
    (dropped.Pairwise fun m n => m.name = n.name → m.backing = true ∧ n.backing = false) ∧
      ((dropped.map IndexMention.name).Nodup ↔
        ∀ b ∈ snapshot.columns, ∀ c ∈ working.columns, c.id = b.id → b.unique = true →
          c.unique = false → uniqueIndexName b.name ∈ snapshot.indexNames →
            uniqueIndexName b.name ∈ working.indexNames) := by
  let gone := (of snapshot working).indexes.removed
  have hgone : ∀ i, i ∈ gone ↔ i ∈ snapshot.indexes ∧ i.name ∉ working.indexNames := by
    intro i
    simp only [gone, of, NameMatch.mem_removed, Definition.indexNames, List.mem_map, not_exists,
      not_and]
  have hgoneNames : (gone.map Index.name).Nodup := nodup_map_filter hnames _
  have hgoneGood : ∀ i ∈ gone, trimmed i.name = i.name := fun i hi => hgood i ((hgone i).1 hi).1
  have hbacking : ∀ m ∈ (of snapshot working).changedColumns.filterMap ColumnChange.dropped?,
      m.backing = true := by
    intro m hm
    obtain ⟨b, -, c, -, -, -, -, rfl⟩ := (mem_dropped h hsource).1 hm
    rfl
  intro dropped
  rw [show dropped = _ from droppedIndexes_eq table _]
  refine ⟨IndexMention.pairwise_append (nodup_dropped h hsource) hgoneNames hgoneGood hbacking,
    (IndexMention.nodup_append (nodup_dropped h hsource) hgoneNames hgoneGood hgone).trans
      ⟨?_, ?_⟩⟩
  · intro hclear b hb c hc hid hbefore hafter
    exact hclear _ ((mem_dropped h hsource).2 ⟨b, hb, c, hc, hid, hbefore, hafter, rfl⟩)
  · intro hclear m hm
    obtain ⟨b, hb, c, hc, hid, hbefore, hafter, rfl⟩ := (mem_dropped h hsource).1 hm
    exact hclear b hb c hc hid hbefore hafter

end Diff

end TableDraft
