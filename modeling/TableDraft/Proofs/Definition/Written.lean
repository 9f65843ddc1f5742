import TableDraft.Proofs.Definition.Reread
import TableDraft.Proofs.Json.Short
import TableDraft.Proofs.Json.Written

namespace TableDraft
open TableDraft.Json TableDraft.Number

/-- A number that can be read. -/
def Mark.IsShort (m : Mark) : Prop :=
  ∀ n, m = .number n → n.natAbs < digitBound digitLimit

namespace Mark

theorem isShort_word (s : String) : (word s).IsShort :=
  fun _ h => nomatch h

theorem isShort_of_lt {n : Int} (h : n.natAbs < digitBound digitLimit) : (number n).IsShort := by
  rintro _ ⟨⟩
  exact h

theorem one_lt_bound : 1 < digitBound digitLimit :=
  calc
    1 < digitBound 1 := by decide
    _ ≤ digitBound digitLimit := digitBound_mono (by decide)

theorem wordBound_le : wordBound ≤ digitBound digitLimit :=
  calc
    wordBound ≤ digitBound 19 := by decide
    _ ≤ digitBound digitLimit := digitBound_mono (by decide)

theorem lt_wordBound_of_wholeOfFloat {x : Binary64} {n : Int} (h : wholeOfFloat x = .ok n) :
    n.natAbs < wordBound := by
  unfold wholeOfFloat at h
  split at h
  · split at h
    next hn =>
      cases h
      exact hn
    · cases h
  · cases h

theorem isShort_of_check {v : Value} {m : Mark} (hv : v.IsShort digitLimit)
    (h : check v = .good m) : m.IsShort := by
  cases hv with
  | null => cases h
  | bool b =>
    cases h
    refine isShort_of_lt (Nat.lt_of_le_of_lt ?_ one_lt_bound)
    cases b <;> decide
  | int hn =>
    cases h
    exact isShort_of_lt hn
  | float x =>
    rw [check] at h
    split at h
    next n hn =>
      cases h
      exact isShort_of_lt ((lt_wordBound_of_wholeOfFloat hn).trans_le wordBound_le)
    · cases h
  | text s =>
    cases h
    exact isShort_word s
  | moment s => cases h
  | list h' => cases h
  | object h' => cases h

end Mark

/-- A column that can be read once it is written. -/
structure Column.IsReadable (c : Column) : Prop where
  checked : c.IsChecked
  id : c.id.IsShort
  length : ∀ m, c.length = some m → m.IsShort

/-- A definition that can be read once it is written. -/
def Definition.IsReadable (d : Definition) : Prop :=
  ∀ c ∈ d.columns, c.IsReadable

namespace Column

theorem isReadable_of_checkFields {fresh : ColumnId} {raw : Fields} {c : Column}
    (hraw : ∀ f ∈ raw, f.2.IsShort digitLimit) (hfresh : fresh.IsShort)
    (h : checkFields fresh raw = .good c) : c.IsReadable := by
  have hget {name : String} {v : Value} (hv : raw.get? name = some v) : v.IsShort digitLimit :=
    hraw _ (Fields.mem_of_get? hv)
  obtain ⟨hid, -, -, -, hlength, -⟩ := checkFields_eq_good.1 h
  rw [Fields.orElse_eq_good, get?_withOriginal_of_ne raw (by decide)] at hid hlength
  refine ⟨⟨fresh, raw, h⟩, ?_, fun m hm => ?_⟩
  · obtain ⟨v, hv, hcheck⟩ | ⟨-, hid⟩ := hid
    · exact Mark.isShort_of_check (hget hv) hcheck
    · rwa [← hid]
  · rw [hm] at hlength
    obtain ⟨v, hv, hcheck⟩ | ⟨-, hnone⟩ := hlength
    · exact Mark.isShort_of_check (hget hv) (good_of_checkOptional hcheck)
    · cases hnone

theorem isReadable_of_checkItems {ids : IdSupply} {i : Nat} {items : List Value}
    (hitems : ∀ v ∈ items, v.IsShort digitLimit) {columns : List Column}
    (h : (checkItems ids i items).1 = .good columns) : ∀ c ∈ columns, c.IsReadable := by
  induction items generalizing ids i columns with
  | nil =>
    cases h
    exact List.forall_mem_nil _
  | cons v r ih =>
    obtain ⟨c, rest, hc, hrest, rfl⟩ := checkItems_cons_eq_good.1 h
    have hv := hitems v List.mem_cons_self
    refine List.forall_mem_cons.2 ⟨?_, ih (fun w hw => hitems w (List.mem_cons_of_mem v hw)) hrest⟩
    cases hv with
    | object hfields => exact isReadable_of_checkFields hfields (Mark.isShort_word _) hc
    | _ => cases hc

/-- Written columns give themselves back. -/
theorem checkItems_fields {columns : List Column} (h : ∀ c ∈ columns, c.IsReadable) (ids : IdSupply)
    (i : Nat) : checkItems ids i (columns.map fun c => .object c.fields) = (.good columns, ids) := by
  induction columns generalizing i with
  | nil => rfl
  | cons c r ih =>
    obtain ⟨hc, hr⟩ := List.forall_mem_cons.1 h
    have hcheck : check ids (.object c.fields) = (.good c, ids) := by
      rw [check, checkFields_fields (isChecked_iff.1 hc.checked)]
      rfl
    rw [List.map_cons, checkItems_cons, hcheck, ih hr]
    rfl

theorem isPlain_value {m : Mark} (h : m.IsShort) (depth : Nat) :
    IsPlain digitLimit depth m.value := by
  cases m with
  | number n => exact .int (h n rfl)
  | word s => exact .text s

theorem isPlain_ofText? (s : Option String) (depth : Nat) :
    IsPlain digitLimit depth (Value.ofText? s) := by
  cases s with
  | none => exact .null
  | some s => exact .text s

theorem IsReadable.isPlain_fields {c : Column} (h : c.IsReadable) (depth : Nat) :
    IsPlain digitLimit (depth + 1) (.object c.fields) := by
  have hkeys : (c.fields.map Prod.fst).Nodup := by
    show ["id", "name", "original_name", "data_type", "length", "default_value", "nullable",
      "primary_key", "auto_increment", "unique"].Nodup
    decide
  have hlength : IsPlain digitLimit depth ((c.length.map Mark.value).getD .null) := by
    cases hl : c.length with
    | none => exact .null
    | some m => exact isPlain_value (h.length m hl) depth
  refine .object hkeys ?_
  simp only [fields, List.forall_mem_cons]
  exact ⟨isPlain_value h.id depth, .text _, isPlain_ofText? _ depth, .text _, hlength,
    isPlain_ofText? _ depth, .bool _, .bool _, .bool _, .bool _, List.forall_mem_nil _⟩

end Column

/-- Items that give themselves back do so in a list. -/
theorem checkList_map {check : Value → Checked α} (value : α → Value)
    (h : ∀ a, check (value a) = .good a) (items : List α) :
    checkList check (.list (items.map value)) = .good items := by
  have hitems : ∀ i, checkItems check i (items.map value) = .good items := by
    induction items with
    | nil => exact fun _ => rfl
    | cons a r ih =>
      intro i
      rw [List.map_cons, checkItems, h, ih]
      rfl
  exact hitems 0

theorem isPlain_list {longest depth : Nat} {value : α → Value} {items : List α}
    (h : ∀ a ∈ items, IsPlain longest depth (value a)) :
    IsPlain longest (depth + 1) (.list (items.map value)) := by
  refine .list fun v hv => ?_
  obtain ⟨a, ha, rfl⟩ := List.mem_map.1 hv
  exact h a ha

theorem Index.check_fields (i : Index) : check (.object i.fields) = .good i := by
  have hcolumns := checkList_map Value.text (fun s => (rfl : checkText (.text s) = .good s)) i.columns
  show Index.mk <$> Checked.good i.name <*> Checked.good i.type <*> Checked.good i.unique <*>
    (checkList checkText (.list (i.columns.map .text))).within (.field "columns") = _
  rw [hcolumns]
  rfl

theorem ForeignKey.check_fields (k : ForeignKey) : check (.object k.fields) = .good k := rfl

theorem Trigger.check_fields (t : Trigger) : check (.object t.fields) = .good t := rfl

theorem Index.isPlain_fields (i : Index) (longest depth : Nat) :
    IsPlain longest (depth + 2) (.object i.fields) := by
  have hkeys : (i.fields.map Prod.fst).Nodup := by
    show ["name", "type", "unique", "columns"].Nodup
    decide
  refine .object hkeys ?_
  simp only [fields, List.forall_mem_cons]
  exact ⟨.text _, .text _, .bool _, isPlain_list fun s _ => .text s, List.forall_mem_nil _⟩

theorem ForeignKey.isPlain_fields (k : ForeignKey) (longest depth : Nat) :
    IsPlain longest (depth + 1) (.object k.fields) := by
  have hkeys : (k.fields.map Prod.fst).Nodup := by
    show ["constraint_name", "column_name", "referenced_table", "referenced_column"].Nodup
    decide
  refine .object hkeys ?_
  simp only [fields, List.forall_mem_cons]
  exact ⟨.text _, .text _, .text _, .text _, List.forall_mem_nil _⟩

theorem Trigger.isPlain_fields (t : Trigger) (longest depth : Nat) :
    IsPlain longest (depth + 1) (.object t.fields) := by
  have hkeys : (t.fields.map Prod.fst).Nodup := by
    show ["name", "timing", "event", "body"].Nodup
    decide
  refine .object hkeys ?_
  simp only [fields, List.forall_mem_cons]
  exact ⟨.text _, .text _, .text _, .text _, List.forall_mem_nil _⟩

namespace Definition

theorem isReadable_of_check {ids : IdSupply} {v : Value} (hv : v.IsShort digitLimit)
    {d : Definition} (h : (check ids v).1 = .good d) : d.IsReadable := by
  cases hv with
  | @object fields hfields =>
    obtain ⟨hcolumns, -⟩ := checkFields_eq_good.1 h
    rw [checkColumns, Fields.orElse_eq_good] at hcolumns
    obtain ⟨w, hw, hcheck⟩ | ⟨-, hnone⟩ := hcolumns
    · cases hfields _ (Fields.mem_of_get? hw) with
      | list hitems => exact Column.isReadable_of_checkItems hitems hcheck
      | _ => cases hcheck
    · rw [IsReadable, ← hnone]
      exact List.forall_mem_nil _
  | _ => cases h

/-- A definition is nested in four levels, the innermost for the columns of an index. -/
theorem isPlain_value {d : Definition} (h : d.IsReadable) (depth : Nat) :
    IsPlain digitLimit (depth + 4) d.value := by
  refine .object (by decide : ["columns", "indexes", "foreign_keys", "triggers"].Nodup) ?_
  simp only [List.forall_mem_cons]
  exact ⟨isPlain_list fun c hc => (h c hc).isPlain_fields (depth + 1),
    isPlain_list fun i _ => i.isPlain_fields digitLimit depth,
    isPlain_list fun k _ => k.isPlain_fields digitLimit (depth + 1),
    isPlain_list fun t _ => t.isPlain_fields digitLimit (depth + 1), List.forall_mem_nil _⟩

theorem check_value {d : Definition} (h : d.IsReadable) (ids : IdSupply) :
    check ids d.value = (.good d, ids) := by
  have hcolumns : Column.checkList ids (.list (d.columns.map fun c => .object c.fields)) =
      (.good d.columns, ids) := Column.checkItems_fields h ids 0
  have hindexes := checkList_map (fun i : Index => .object i.fields) Index.check_fields d.indexes
  have hkeys := checkList_map (fun k : ForeignKey => .object k.fields) ForeignKey.check_fields
    d.foreignKeys
  have htriggers := checkList_map (fun t : Trigger => .object t.fields) Trigger.check_fields
    d.triggers
  have hsupply : (check ids d.value).2 = ids := by
    show (Column.checkList ids (.list (d.columns.map fun c => .object c.fields))).2 = ids
    rw [hcolumns]
  refine Prod.ext (checkFields_eq_good.2 ?_) hsupply
  simp only [checkColumns, Fields.orElse_eq_good]
  exact ⟨.inl ⟨_, rfl, congrArg Prod.fst hcolumns⟩, .inl ⟨_, rfl, hindexes⟩, .inl ⟨_, rfl, hkeys⟩,
    .inl ⟨_, rfl, htriggers⟩⟩

end Definition

end TableDraft
