import TableDraft.Proofs.Draft.KeyUses

namespace TableDraft

/-- Something in a table that goes by its name alone: under a name that stays it counts as unchanged,
also if an edit has dropped it and made another one in its place. -/
inductive Item where
  | index (i : Index)
  | foreignKey (k : ForeignKey)
  | trigger (t : Trigger)
  deriving DecidableEq

/-- The kind of an item and its name. -/
inductive ItemKey where
  | index (name : String)
  | foreignKey (name : String)
  | trigger (name : String)
  deriving DecidableEq

namespace Item

def key : Item → ItemKey
  | index i => .index i.name
  | foreignKey k => .foreignKey k.constraintName
  | trigger t => .trigger t.name

/-- The statement that creates the item. There is none for an index without columns. -/
def creation? (table : String) : Item → Option Statement
  | index i => Statement.createIndex? table i
  | foreignKey k => some (.addForeignKey table k)
  | trigger t => some (.createTrigger table t)

def removal (table : String) : Item → Statement
  | index i => .dropIndex table i
  | foreignKey k => .dropForeignKey table k
  | trigger t => .dropTrigger t

end Item

/-- The key of what a statement creates or removes, be it an item or the index behind a unique
column. -/
def Statement.itemKey? : Statement → Option ItemKey
  | addUnique _ c => some (.index (uniqueIndexName c.name))
  | dropUnique _ b => some (.index (uniqueIndexName b.sourceName))
  | createIndex _ i | dropIndex _ i => some (.index i.name)
  | addForeignKey _ k | dropForeignKey _ k => some (.foreignKey k.constraintName)
  | createTrigger _ t | dropTrigger t => some (.trigger t.name)
  | _ => none

namespace Definition

def items (d : Definition) : List Item :=
  d.indexes.map .index ++ d.foreignKeys.map .foreignKey ++ d.triggers.map .trigger

def itemKeys (d : Definition) : List ItemKey :=
  d.items.map Item.key

variable {d : Definition}

@[simp] theorem mem_items_index {i : Index} : .index i ∈ d.items ↔ i ∈ d.indexes := by
  simp [items]

@[simp] theorem mem_items_foreignKey {k : ForeignKey} :
    .foreignKey k ∈ d.items ↔ k ∈ d.foreignKeys := by
  simp [items]

@[simp] theorem mem_items_trigger {t : Trigger} : .trigger t ∈ d.items ↔ t ∈ d.triggers := by
  simp [items]

@[simp] theorem index_not_mem_itemKeys {n : String} :
    .index n ∉ d.itemKeys ↔ ∀ i ∈ d.indexes, i.name ≠ n := by
  simp [itemKeys, items, Item.key]

@[simp] theorem foreignKey_not_mem_itemKeys {n : String} :
    .foreignKey n ∉ d.itemKeys ↔ ∀ k ∈ d.foreignKeys, k.constraintName ≠ n := by
  simp [itemKeys, items, Item.key]

@[simp] theorem trigger_not_mem_itemKeys {n : String} :
    .trigger n ∉ d.itemKeys ↔ ∀ t ∈ d.triggers, t.name ≠ n := by
  simp [itemKeys, items, Item.key]

end Definition

namespace Diff

variable {snapshot working : Definition} {table : String}

/-- What may create or remove something by its key. Besides the items that are on one side only these
are the columns on both sides that are unique on one: the index behind such a column is named after
it, and nothing keeps an item of the table from having that name too. -/
inductive Alters (snapshot working : Definition) (table : String) : Statement → ItemKey → Prop where
  | removal {x : Item} (hx : x ∈ snapshot.items) (hgone : x.key ∉ working.itemKeys) :
    Alters snapshot working table (x.removal table) x.key
  | creation {x : Item} {s : Statement} (hx : x ∈ working.items) (hnew : x.key ∉ snapshot.itemKeys)
    (hs : x.creation? table = some s) : Alters snapshot working table s x.key
  | uniqueOn {b c : Column} (hb : b ∈ snapshot.columns) (hc : c ∈ working.columns)
    (hid : b.id = c.id) (hbefore : b.unique = false) (hafter : c.unique = true) :
    Alters snapshot working table (.addUnique table c) (.index (uniqueIndexName c.name))
  | uniqueOff {b c : Column} (hb : b ∈ snapshot.columns) (hc : c ∈ working.columns)
    (hid : b.id = c.id) (hbefore : b.unique = true) (hafter : c.unique = false) :
    Alters snapshot working table (.dropUnique table b) (.index (uniqueIndexName b.sourceName))

/-- An item of the snapshot is removed if its name is gone. -/
theorem removal_mem_steps {x : Item} (hx : x ∈ snapshot.items) (hgone : x.key ∉ working.itemKeys) :
    x.removal table ∈ (of snapshot working).steps table := by
  rw [mem_steps]
  cases x with
  | index i =>
    exact .dropIndex (NameMatch.mem_removed.2 ⟨Definition.mem_items_index.1 hx,
      Definition.index_not_mem_itemKeys.1 hgone⟩)
  | foreignKey k =>
    exact .dropForeignKey (NameMatch.mem_removed.2 ⟨Definition.mem_items_foreignKey.1 hx,
      Definition.foreignKey_not_mem_itemKeys.1 hgone⟩)
  | trigger t =>
    exact .dropTrigger (NameMatch.mem_removed.2 ⟨Definition.mem_items_trigger.1 hx,
      Definition.trigger_not_mem_itemKeys.1 hgone⟩)

/-- An item of the working set is created if its name is new. -/
theorem creation_mem_steps {x : Item} (hx : x ∈ working.items) (hnew : x.key ∉ snapshot.itemKeys)
    {s : Statement} (hs : x.creation? table = some s) : s ∈ (of snapshot working).steps table := by
  rw [mem_steps]
  cases x with
  | index i =>
    obtain ⟨hcolumns, rfl⟩ := createIndex?_eq_some.1 hs
    exact .createIndex (NameMatch.mem_added.2 ⟨Definition.mem_items_index.1 hx,
      Definition.index_not_mem_itemKeys.1 hnew⟩) hcolumns
  | foreignKey k =>
    cases hs
    exact .addForeignKey (NameMatch.mem_added.2 ⟨Definition.mem_items_foreignKey.1 hx,
      Definition.foreignKey_not_mem_itemKeys.1 hnew⟩)
  | trigger t =>
    cases hs
    exact .createTrigger (NameMatch.mem_added.2 ⟨Definition.mem_items_trigger.1 hx,
      Definition.trigger_not_mem_itemKeys.1 hnew⟩)

theorem alters_of_mem_steps {s : Statement} (hs : s ∈ (of snapshot working).steps table)
    {key : ItemKey} (hkey : s.itemKey? = some key) : Alters snapshot working table s key := by
  cases mem_steps.1 hs with
  | addUnique h hchanged hafter =>
    cases hkey
    obtain ⟨hb, hc, hid⟩ := sides_of_changed h
    have hunique := ColumnChange.uniqueChanged_iff.1 hchanged
    rw [hafter] at hunique
    exact .uniqueOn hb hc hid hunique hafter
  | dropUnique h hchanged hafter =>
    cases hkey
    obtain ⟨hb, hc, hid⟩ := sides_of_changed h
    have hunique := ColumnChange.uniqueChanged_iff.1 hchanged
    rw [hafter] at hunique
    exact .uniqueOff hb hc hid hunique hafter
  | createIndex h hcolumns =>
    cases hkey
    obtain ⟨hi, hnew⟩ := NameMatch.mem_added.1 h
    exact .creation (x := .index _) (Definition.mem_items_index.2 hi)
      (Definition.index_not_mem_itemKeys.2 hnew) (createIndex?_eq_some.2 ⟨hcolumns, rfl⟩)
  | dropIndex h =>
    cases hkey
    obtain ⟨hi, hgone⟩ := NameMatch.mem_removed.1 h
    exact .removal (x := .index _) (Definition.mem_items_index.2 hi)
      (Definition.index_not_mem_itemKeys.2 hgone)
  | addForeignKey h =>
    cases hkey
    obtain ⟨hk, hnew⟩ := NameMatch.mem_added.1 h
    exact .creation (x := .foreignKey _) (Definition.mem_items_foreignKey.2 hk)
      (Definition.foreignKey_not_mem_itemKeys.2 hnew) rfl
  | dropForeignKey h =>
    cases hkey
    obtain ⟨hk, hgone⟩ := NameMatch.mem_removed.1 h
    exact .removal (x := .foreignKey _) (Definition.mem_items_foreignKey.2 hk)
      (Definition.foreignKey_not_mem_itemKeys.2 hgone)
  | createTrigger h =>
    cases hkey
    obtain ⟨ht, hnew⟩ := NameMatch.mem_added.1 h
    exact .creation (x := .trigger _) (Definition.mem_items_trigger.2 ht)
      (Definition.trigger_not_mem_itemKeys.2 hnew) rfl
  | dropTrigger h =>
    cases hkey
    obtain ⟨ht, hgone⟩ := NameMatch.mem_removed.1 h
    exact .removal (x := .trigger _) (Definition.mem_items_trigger.2 ht)
      (Definition.trigger_not_mem_itemKeys.2 hgone)
  | _ => cases hkey

end Diff

namespace Draft

theorem text_mem_statements {d : Draft} {s : Statement} (h : s ∈ d.steps) :
    s.text ∈ d.plan.statements ∧ d.hasChanges = true := by
  have hmem : s.text ∈ d.plan.statements := by
    rw [statements_plan]
    exact List.mem_map_of_mem h
  refine ⟨hmem, ?_⟩
  rw [hasChanges, Plan.hasChanges, Bool.not_eq_true', List.isEmpty_eq_false_iff]
  exact List.ne_nil_of_mem hmem

/-- After any edits the plan removes each loaded item whose name is gone and creates each item whose
name is new, so that it has changes then. Nothing else creates or removes anything by name but a
column that was made unique, or no longer is. -/
theorem items_run (database table : String) (opened : Definition) (ids : IdSupply) (es : List Edit) :
    let d := ((start database table opened).run ids es).1
    (∀ x ∈ opened.items, x.key ∉ d.working.itemKeys →
      (x.removal table).text ∈ d.plan.statements ∧ d.hasChanges = true) ∧
    (∀ x ∈ d.working.items, x.key ∉ opened.itemKeys → ∀ s, x.creation? table = some s →
      s.text ∈ d.plan.statements ∧ d.hasChanges = true) ∧
    ∀ s ∈ d.steps, ∀ key, s.itemKey? = some key →
      Diff.Alters opened d.working table s key := by
  intro d
  have hsteps : d.steps = (Diff.of opened d.working).steps table := by
    rw [steps, show d = _ from run_eq _ ids es]
    rfl
  refine ⟨fun x hx hgone => ?_, fun x hx hnew s hs => ?_, fun s hs key hkey => ?_⟩
  · apply text_mem_statements
    rw [hsteps]
    exact Diff.removal_mem_steps hx hgone
  · apply text_mem_statements
    rw [hsteps]
    exact Diff.creation_mem_steps hx hnew hs
  · rw [hsteps] at hs
    exact Diff.alters_of_mem_steps hs hkey

/-- An index, a foreign key and a trigger that are dropped and made anew under their names. -/
theorem items_run_redefined :
    let a : Column := ⟨.number 1, "a", some "a", "INT", none, none, true, false, false, false⟩
    let opened : Definition := ⟨[a, { a with id := .number 2, name := "b", originalName := some "b" }],
      [⟨"i", "BTREE", false, ["a"]⟩], [⟨"f", "a", "t", "x"⟩],
      [⟨"g", "BEFORE", "INSERT", "SET NEW.a = 1;"⟩]⟩
    let edits : List Edit := [.dropIndex (.text "i"),
      .addIndex (.text "i") (.list [.text "b"]) (.text "INDEX"), .dropForeignKey (.text "f"),
      .addForeignKey (.text "f") (.text "b") (.text "t") (.text "x"), .dropTrigger (.text "g"),
      .addTrigger (.text "g") (.text "BEFORE") (.text "INSERT") (.text "SET NEW.a = 2;")]
    let d := ((start "shop" "users" opened).run ⟨fun n => "gen" ++ toString n, 0⟩ edits).1
    opened.KeysDistinct ∧ d.working.items = [.index ⟨"i", "BTREE", false, ["b"]⟩,
        .foreignKey ⟨"f", "b", "t", "x"⟩, .trigger ⟨"g", "BEFORE", "INSERT", "SET NEW.a = 2;"⟩] ∧
      d.plan.statements = [] ∧ d.hasChanges = false := by
  intro a opened edits d
  refine ⟨?_, by decide +kernel, by decide +kernel, by decide +kernel⟩
  constructor <;> decide +kernel

end Draft

end TableDraft
