import TableDraft.Column
import TableDraft.Proofs.Checked
import TableDraft.Proofs.Fields

namespace TableDraft

namespace Value

theorem isTruthy_text {s : String} : (text s).isTruthy = true ↔ s ≠ "" := by
  simp [isTruthy]

theorem ofText?_eq_text {o : Option String} {s : String} : ofText? o = text s ↔ o = some s := by
  cases o <;> simp [ofText?]

end Value

namespace Mark

@[simp] theorem check_value (m : Mark) : Mark.check m.value = .good m := by
  cases m <;> rfl

end Mark

namespace Column

/-- The checked fields as a column has them. -/
theorem checkFields_eq_good {fresh : ColumnId} {raw : Fields} {c : Column} :
    checkFields fresh raw = .good c ↔
      (withOriginal raw).orElse "id" fresh Mark.check = .good c.id ∧
      (withOriginal raw).required "name" checkText = .good c.name ∧
      (withOriginal raw).orElse "original_name" none (checkOptional checkText) =
        .good c.originalName ∧
      (withOriginal raw).required "data_type" checkText = .good c.dataType ∧
      (withOriginal raw).orElse "length" none (checkOptional Mark.check) = .good c.length ∧
      (withOriginal raw).orElse "default_value" none (checkOptional checkText) =
        .good c.defaultValue ∧
      (withOriginal raw).orElse "nullable" true checkFlag = .good c.nullable ∧
      (withOriginal raw).orElse "primary_key" false checkFlag = .good c.primaryKey ∧
      (withOriginal raw).orElse "auto_increment" false checkFlag = .good c.autoIncrement ∧
      (withOriginal raw).orElse "unique" false checkFlag = .good c.unique := by
  simp only [checkFields, Checked.seq_eq_good, Checked.map_eq_good]
  constructor
  · rintro ⟨_, unique, ⟨_, increment, ⟨_, key, ⟨_, nullable, ⟨_, default, ⟨_, length, ⟨_, type,
      ⟨_, original, ⟨_, name, ⟨id, hid, rfl⟩, hname, rfl⟩, horiginal, rfl⟩, htype, rfl⟩,
      hlength, rfl⟩, hdefault, rfl⟩, hnullable, rfl⟩, hkey, rfl⟩, hincrement, rfl⟩, hunique, rfl⟩
    exact ⟨hid, hname, horiginal, htype, hlength, hdefault, hnullable, hkey, hincrement, hunique⟩
  · rintro ⟨hid, hname, horiginal, htype, hlength, hdefault, hnullable, hkey, hincrement, hunique⟩
    exact ⟨_, _, ⟨_, _, ⟨_, _, ⟨_, _, ⟨_, _, ⟨_, _, ⟨_, _, ⟨_, _, ⟨_, _, ⟨_, hid, rfl⟩, hname, rfl⟩,
      horiginal, rfl⟩, htype, rfl⟩, hlength, rfl⟩, hdefault, rfl⟩, hnullable, rfl⟩, hkey, rfl⟩,
      hincrement, rfl⟩, hunique, rfl⟩

/-- The original name is one that a column can be known by. -/
def IsRooted (c : Column) : Prop :=
  ∃ s, s ≠ "" ∧ c.originalName = some s

/-- The server knows the column by its name. -/
def IsLoaded (c : Column) : Prop :=
  c.name ≠ "" ∧ c.originalName = some c.name

instance (c : Column) : Decidable c.IsLoaded :=
  inferInstanceAs (Decidable (_ ∧ _))

theorem IsLoaded.isRooted {c : Column} (h : c.IsLoaded) : c.IsRooted :=
  ⟨c.name, h⟩

theorem IsLoaded.sourceName {c : Column} (h : c.IsLoaded) : c.sourceName = c.name := by
  rw [Column.sourceName, h.2]
  simp only [if_neg h.1]

theorem get?_withOriginal_of_ne (raw : Fields) {name : String} (h : name ≠ "original_name") :
    (withOriginal raw).get? name = raw.get? name := by
  unfold withOriginal
  split
  · split
    · exact Fields.get?_put_of_ne raw _ h
    · rfl
  · rfl

theorem withOriginal_of_truthy {raw : Fields}
    (h : ((raw.get? "original_name").getD .null).isTruthy = true) : withOriginal raw = raw := by
  unfold withOriginal
  split
  · rw [h, Bool.not_true, Bool.and_false, if_neg Bool.false_ne_true]
  · rfl

theorem withOriginal_of_not_truthy {raw : Fields} {name : Value}
    (hname : raw.get? "name" = some name) (ht : name.isTruthy = true)
    (h : ((raw.get? "original_name").getD .null).isTruthy = false) :
    withOriginal raw = raw.put "original_name" name := by
  unfold withOriginal
  simp only [hname, ht, h, Bool.not_false, Bool.and_true, if_true]

theorem name_of_checkFields {fresh : ColumnId} {raw : Fields} {c : Column}
    (h : checkFields fresh raw = .good c) : raw.get? "name" = some (.text c.name) := by
  obtain ⟨-, hname, -⟩ := checkFields_eq_good.1 h
  rwa [Fields.requiredText_eq_good, get?_withOriginal_of_ne raw (by decide)] at hname

theorem id_of_absent {fresh : ColumnId} {raw : Fields} {c : Column}
    (h : checkFields fresh raw = .good c) (hid : raw.get? "id" = none) : c.id = fresh := by
  obtain ⟨h, -⟩ := checkFields_eq_good.1 h
  rw [Fields.orElse_eq_good, get?_withOriginal_of_ne raw (by decide), hid] at h
  obtain ⟨v, hv, -⟩ | ⟨-, hc⟩ := h
  · cases hv
  · exact hc.symm

theorem id_of_present {fresh m : ColumnId} {raw : Fields} {c : Column}
    (h : checkFields fresh raw = .good c) (hid : raw.get? "id" = some m.value) : c.id = m := by
  obtain ⟨h, -⟩ := checkFields_eq_good.1 h
  have hget : (withOriginal raw).get? "id" = some m.value :=
    (get?_withOriginal_of_ne raw (by decide)).trans hid
  rw [Fields.orElse_of_some hget, Mark.check_value] at h
  exact (Checked.good.inj h).symm

theorem originalName_of_checkFields {fresh : ColumnId} {raw : Fields} {c : Column} {s : String}
    (h : checkFields fresh raw = .good c)
    (hs : (withOriginal raw).get? "original_name" = some (.text s)) : c.originalName = some s := by
  obtain ⟨-, -, horiginal, -⟩ := checkFields_eq_good.1 h
  rw [Fields.orElse_of_some hs] at horiginal
  exact Value.ofText?_eq_text.1 (checkOptionalText_eq_good.1 horiginal).symm

/-- Without an original name of its own a column takes its name for one. -/
theorem originalName_of_absent {fresh : ColumnId} {raw : Fields} {c : Column}
    (h : checkFields fresh raw = .good c) (hn : c.name ≠ "")
    (ho : ((raw.get? "original_name").getD .null).isTruthy = false) :
    c.originalName = some c.name := by
  apply originalName_of_checkFields h
  rw [withOriginal_of_not_truthy (name_of_checkFields h) (Value.isTruthy_text.2 hn) ho,
    Fields.get?_put_self]

theorem originalName_of_present {fresh : ColumnId} {raw : Fields} {c : Column} {s : String}
    (h : checkFields fresh raw = .good c) (hs : s ≠ "")
    (ho : raw.get? "original_name" = some (.text s)) : c.originalName = some s := by
  apply originalName_of_checkFields h
  rwa [withOriginal_of_truthy]
  rw [ho]
  exact Value.isTruthy_text.2 hs

/-- A column that some check has let through. -/
def IsChecked (c : Column) : Prop :=
  ∃ fresh raw, checkFields fresh raw = .good c

theorem IsChecked.isRooted {c : Column} (h : c.IsChecked) (hn : c.name ≠ "") : c.IsRooted := by
  obtain ⟨fresh, raw, h⟩ := h
  cases ho : ((raw.get? "original_name").getD .null).isTruthy with
  | false => exact ⟨c.name, hn, originalName_of_absent h hn ho⟩
  | true =>
    -- a given original name is neither null nor empty, or it would not have counted as given
    have hw := withOriginal_of_truthy ho
    obtain ⟨-, -, horiginal, -⟩ := checkFields_eq_good.1 h
    rw [hw, Fields.orElse_eq_good] at horiginal
    obtain ⟨v, hv, hc⟩ | ⟨hv, -⟩ := horiginal
    · rw [hv] at ho
      have hv := checkOptionalText_eq_good.1 hc
      cases hs : c.originalName with
      | none =>
        rw [hv, hs] at ho
        cases ho
      | some s =>
        rw [hv, hs] at ho
        exact ⟨s, Value.isTruthy_text.1 ho, hs⟩
    · rw [hv] at ho
      cases ho

theorem withOriginal_fields {c : Column} (h : c.name = "" ∨ c.IsRooted) :
    withOriginal c.fields = c.fields := by
  obtain hn | ⟨s, hs, ho⟩ := h
  · have hname : c.fields.get? "name" = some (.text "") := by
      rw [← hn]
      rfl
    unfold withOriginal
    rw [hname]
    rfl
  · apply withOriginal_of_truthy
    show (Value.ofText? c.originalName).isTruthy = true
    rw [ho]
    exact Value.isTruthy_text.2 hs

/-- A column that is written out reads back as it was. -/
theorem checkFields_fields {c : Column} (h : c.name = "" ∨ c.IsRooted) (fresh : ColumnId) :
    checkFields fresh c.fields = .good c := by
  have hlength :
      checkOptional Mark.check ((c.length.map Mark.value).getD .null) = .good c.length := by
    cases hl : c.length with
    | none => rfl
    | some m => cases m <;> rfl
  rw [checkFields_eq_good, withOriginal_fields h]
  simp only [Fields.orElse_eq_good, Fields.required_eq_good]
  refine ⟨.inl ⟨c.id.value, rfl, Mark.check_value _⟩, ⟨_, rfl, rfl⟩,
    .inl ⟨_, rfl, checkOptionalText_eq_good.2 rfl⟩, ⟨_, rfl, rfl⟩, .inl ⟨_, rfl, hlength⟩,
    .inl ⟨_, rfl, checkOptionalText_eq_good.2 rfl⟩, .inl ⟨_, rfl, rfl⟩, .inl ⟨_, rfl, rfl⟩,
    .inl ⟨_, rfl, rfl⟩, .inl ⟨_, rfl, rfl⟩⟩

theorem isChecked_iff {c : Column} : c.IsChecked ↔ c.name = "" ∨ c.IsRooted := by
  constructor
  · intro h
    by_cases hn : c.name = ""
    · exact .inl hn
    · exact .inr (h.isRooted hn)
  · exact fun h => ⟨c.id, c.fields, checkFields_fields h c.id⟩

end Column

end TableDraft
