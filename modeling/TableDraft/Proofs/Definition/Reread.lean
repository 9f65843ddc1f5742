import TableDraft.Proofs.Column.Check
import TableDraft.Proofs.Definition.Keys

namespace TableDraft

namespace IdSupply

/-- One of the ids that the supply will give. -/
def Gives (ids : IdSupply) (id : ColumnId) : Prop :=
  ∃ n, ids.issued < n ∧ id = .word (ids.name n)

theorem gives_next (ids : IdSupply) : ids.Gives ids.next :=
  ⟨ids.issued + 1, Nat.lt_succ_self _, rfl⟩

end IdSupply

namespace Column

/-- A column is written with its id. -/
def givesId : Value → Bool
  | .object fields => (Fields.get? fields "id").isSome
  | _ => true

theorem checkFields_of_present {fresh fresh' : ColumnId} {raw : Fields} {c : Column}
    (h : checkFields fresh raw = .good c) (hid : (raw.get? "id").isSome = true) :
    checkFields fresh' raw = .good c := by
  rw [checkFields_eq_good] at h ⊢
  refine ⟨?_, h.2⟩
  have hread := h.1
  rw [Fields.orElse_eq_good, get?_withOriginal_of_ne raw (by decide)] at hread ⊢
  refine hread.imp_right fun hnone => ?_
  rw [hnone.1] at hid
  cases hid

theorem checkFields_of_absent {fresh fresh' : ColumnId} {raw : Fields} {c : Column}
    (h : checkFields fresh raw = .good c) (hid : raw.get? "id" = none) :
    checkFields fresh' raw = .good { c with id := fresh' } := by
  rw [checkFields_eq_good] at h ⊢
  refine ⟨?_, h.2⟩
  rw [Fields.orElse_eq_good, get?_withOriginal_of_ne raw (by decide)]
  exact .inr ⟨hid, rfl⟩

theorem check_again {ids : IdSupply} {v : Value} {c : Column} (h : (check ids v).1 = .good c)
    (ids' : IdSupply) :
    (givesId v = true ∧ check ids' v = (.good c, ids')) ∨
      (givesId v = false ∧ check ids' v = (.good { c with id := ids'.next }, ids'.advance)) := by
  cases v with
  | object fields =>
    rw [check] at h
    cases hid : Fields.get? fields "id" with
    | some id =>
      have hsome : (Fields.get? fields "id").isSome = true := by
        rw [hid]
        rfl
      left
      rw [givesId, check, checkFields_of_present h hsome, if_pos hsome]
      exact ⟨hsome, rfl⟩
    | none =>
      right
      rw [givesId, check, checkFields_of_absent h hid, hid]
      exact ⟨rfl, rfl⟩
  | _ => cases h

theorem checkItems_cons (ids : IdSupply) (i : Nat) (v : Value) (r : List Value) :
    checkItems ids i (v :: r) =
      (List.cons <$> (check ids v).1.within (.item i) <*>
        (checkItems (check ids v).2 (i + 1) r).1, (checkItems (check ids v).2 (i + 1) r).2) := rfl

theorem checkItems_cons_eq_good {ids : IdSupply} {i : Nat} {v : Value} {r : List Value}
    {columns : List Column} : (checkItems ids i (v :: r)).1 = .good columns ↔
      ∃ c rest, (check ids v).1 = .good c ∧
        (checkItems (check ids v).2 (i + 1) r).1 = .good rest ∧ columns = c :: rest := by
  simp only [checkItems_cons, Checked.seq_eq_good, Checked.map_eq_good, Checked.within_eq_good]
  constructor
  · rintro ⟨_, rest, ⟨c, hc, rfl⟩, hrest, rfl⟩
    exact ⟨c, rest, hc, hrest, rfl⟩
  · rintro ⟨c, rest, hc, hrest, rfl⟩
    exact ⟨_, rest, ⟨c, hc, rfl⟩, hrest, rfl⟩

/-- The columns are the same again if all are written with their ids; otherwise one of them has an
id from the supply. -/
theorem checkItems_again {ids : IdSupply} {i : Nat} {items : List Value} {columns : List Column}
    (h : (checkItems ids i items).1 = .good columns) (ids' : IdSupply) :
    ∃ columns', (checkItems ids' i items).1 = .good columns' ∧
      (items.all givesId = true → columns' = columns) ∧
      (items.all givesId = false → ∃ c ∈ columns', ids'.Gives c.id) := by
  induction items generalizing ids ids' i columns with
  | nil => exact ⟨columns, h, fun _ => rfl, fun hn => nomatch hn⟩
  | cons v r ih =>
    obtain ⟨c, rest, hc, hrest, rfl⟩ := checkItems_cons_eq_good.1 h
    rw [List.all_cons]
    obtain ⟨hv, hagain⟩ | ⟨hv, hagain⟩ := check_again hc ids'
    · obtain ⟨rest', hrest', hsame, hnew⟩ := ih hrest ids'
      refine ⟨c :: rest', checkItems_cons_eq_good.2 ⟨c, rest', ?_, ?_, rfl⟩, fun hr => ?_,
        fun hr => ?_⟩
      · rw [hagain]
      · rw [hagain]
        exact hrest'
      · rw [hv, Bool.true_and] at hr
        rw [hsame hr]
      · rw [hv, Bool.true_and] at hr
        obtain ⟨b, hb, hid⟩ := hnew hr
        exact ⟨b, List.mem_cons_of_mem c hb, hid⟩
    · obtain ⟨rest', hrest', -⟩ := ih hrest ids'.advance
      refine ⟨{ c with id := ids'.next } :: rest',
        checkItems_cons_eq_good.2 ⟨_, rest', ?_, ?_, rfl⟩, fun hr => ?_, fun _ => ?_⟩
      · rw [hagain]
      · rw [hagain]
        exact hrest'
      · rw [hv, Bool.false_and] at hr
        cases hr
      · exact ⟨_, List.mem_cons_self, ids'.gives_next⟩

end Column

namespace Definition

/-- Every column of a definition is written with its id. -/
def givesIds : Value → Bool
  | .object fields => match Fields.get? fields "columns" with
    | some (.list items) => items.all Column.givesId
    | _ => true
  | _ => true

/-- The columns of a definition as they are checked. -/
def checkColumns (ids : IdSupply) (fields : Fields) : Checked (List Column) :=
  fields.orElse "columns" [] fun v => (Column.checkList ids v).1

theorem checkFields_eq_good {ids : IdSupply} {fields : Fields} {d : Definition} :
    (checkFields ids fields).1 = .good d ↔
      checkColumns ids fields = .good d.columns ∧
      fields.orElse "indexes" [] (checkList Index.check) = .good d.indexes ∧
      fields.orElse "foreign_keys" [] (checkList ForeignKey.check) = .good d.foreignKeys ∧
      fields.orElse "triggers" [] (checkList Trigger.check) = .good d.triggers := by
  have hcolumns : (checkFields ids fields).1 = Definition.mk <$> checkColumns ids fields
      <*> fields.orElse "indexes" [] (checkList Index.check)
      <*> fields.orElse "foreign_keys" [] (checkList ForeignKey.check)
      <*> fields.orElse "triggers" [] (checkList Trigger.check) := by
    unfold checkFields checkColumns Fields.orElse
    cases fields.get? "columns" <;> rfl
  rw [hcolumns]
  simp only [Checked.seq_eq_good, Checked.map_eq_good]
  constructor
  · rintro ⟨_, triggers, ⟨_, keys, ⟨_, indexes, ⟨columns, hcolumns, rfl⟩, hindexes, rfl⟩, hkeys,
      rfl⟩, htriggers, rfl⟩
    exact ⟨hcolumns, hindexes, hkeys, htriggers⟩
  · rintro ⟨hcolumns, hindexes, hkeys, htriggers⟩
    exact ⟨_, _, ⟨_, _, ⟨_, _, ⟨_, hcolumns, rfl⟩, hindexes, rfl⟩, hkeys, rfl⟩, htriggers, rfl⟩

theorem checkColumns_again {ids : IdSupply} {fields : Fields} {columns : List Column}
    (h : checkColumns ids fields = .good columns) (ids' : IdSupply) :
    ∃ columns', checkColumns ids' fields = .good columns' ∧
      (givesIds (.object fields) = true → columns' = columns) ∧
      (givesIds (.object fields) = false → ∃ c ∈ columns', ids'.Gives c.id) := by
  simp only [checkColumns, Fields.orElse_eq_good, givesIds] at h ⊢
  obtain ⟨v, hv, h⟩ | ⟨hnone, rfl⟩ := h
  · cases v with
    | list items =>
      obtain ⟨columns', hagain, hsame, hnew⟩ := Column.checkItems_again h ids'
      simp only [hv]
      exact ⟨columns', .inl ⟨_, rfl, hagain⟩, hsame, hnew⟩
    | _ => cases h
  · simp only [hnone]
    exact ⟨[], .inr ⟨trivial, rfl⟩, fun _ => rfl, fun h => nomatch h⟩

theorem check_again {ids : IdSupply} {v : Value} {d : Definition}
    (h : (check ids v).1 = .good d) (ids' : IdSupply) :
    ∃ columns, (check ids' v).1 = .good { d with columns } ∧
      (givesIds v = true → columns = d.columns) ∧
      (givesIds v = false → ∃ c ∈ columns, ids'.Gives c.id) := by
  cases v with
  | object fields =>
    obtain ⟨hcolumns, hitems⟩ := checkFields_eq_good.1 h
    obtain ⟨columns, hagain, hids⟩ := checkColumns_again hcolumns ids'
    exact ⟨columns, checkFields_eq_good.2 ⟨hagain, hitems⟩, hids⟩
  | _ => cases h

end Definition

end TableDraft
