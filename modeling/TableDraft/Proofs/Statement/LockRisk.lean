import TableDraft.Proofs.Statement.Closed
import TableDraft.Proofs.Text.Words

namespace TableDraft
open TableDraft.Sql TableDraft.Text TableDraft.LockRisk

namespace LockRisk

theorem assess_alter {sql : String} {r : List Char}
    (h : normalForm sql = "ALTER TABLE ".toList ++ r) :
    ∃ w, assess sql = some w ∧ w.statement = sql ∧
      w.severity = if changesColumn (normalForm sql) then .high else .medium := by
  have halter : "ALTER TABLE".toList.isPrefixOf (normalForm sql) = true := by
    rw [h]
    rfl
  simp only [assess, halter, if_true]
  split <;> exact ⟨_, rfl, rfl, rfl⟩

/-- The starts of the statements that make or drop an index. -/
def indexHeads : List String :=
  ["CREATE UNIQUE INDEX ", "CREATE FULLTEXT INDEX ", "CREATE INDEX ", "DROP INDEX "]

theorem assess_index {sql w : String} {r : List Char} (hw : w ∈ indexHeads)
    (h : normalForm sql = w.toList ++ r) :
    ∃ a, assess sql = some a ∧ a.statement = sql ∧ a.severity = .medium := by
  have hclass : "ALTER TABLE".toList.isPrefixOf (normalForm sql) = false ∧
      changesIndex (normalForm sql) = true := by
    rw [h]
    simp only [indexHeads, List.mem_cons, List.not_mem_nil, or_false] at hw
    rcases hw with rfl | rfl | rfl | rfl <;> exact ⟨rfl, rfl⟩
  simp only [assess, hclass, if_true, Bool.false_eq_true, if_false]
  exact ⟨_, rfl, rfl, rfl⟩

theorem assess_trigger {sql w : String} {r : List Char}
    (hw : w ∈ ["CREATE TRIGGER ", "DROP TRIGGER IF EXISTS "])
    (h : normalForm sql = w.toList ++ r) : assess sql = none := by
  have hclass : "ALTER TABLE".toList.isPrefixOf (normalForm sql) = false ∧
      changesIndex (normalForm sql) = false := by
    rw [h]
    simp only [List.mem_cons, List.not_mem_nil, or_false] at hw
    rcases hw with rfl | rfl <;> exact ⟨rfl, rfl⟩
  simp only [assess, hclass, Bool.false_eq_true, if_false]

end LockRisk

namespace Statement

def isTrigger : Statement → Bool
  | createTrigger .. | dropTrigger _ => true
  | _ => false

/-- The risks that fit a statement. One that adds a column, or changes a foreign key, may be taken for
the change of a column, which a name in it can read like. -/
def Risks : Statement → Severity → Prop
  | changeColumn .., r | dropColumn .., r => r = .high
  | addUnique .., r | dropUnique .., r | createIndex .., r | dropIndex .., r => r = .medium
  | addColumn .., r | addForeignKey .., r | dropForeignKey .., r => r = .medium ∨ r = .high
  | createTrigger .., _ | dropTrigger _, _ => False

/-- The words at the start of a statement, up to its first name. -/
def heads : List String :=
  ["ALTER TABLE", "CREATE UNIQUE INDEX", "CREATE FULLTEXT INDEX", "CREATE INDEX", "DROP INDEX",
    "CREATE TRIGGER", "DROP TRIGGER IF EXISTS"]

theorem normal_heads : ∀ w ∈ heads, upper (spaced w.toList) = w.toList ∧ words w.toList ≠ [] := by
  decide

theorem visible_heads : ∀ w ∈ heads,
    w.toList ≠ [] ∧ (w.toList.head?.all fun c => !isBlank c) = true := by
  decide

theorem words_opening (s : Statement) : ∃ w ∈ heads, s.opening.words = w ++ " " := by
  cases s with
  | createIndex t i =>
    unfold opening Index.kindWord
    dsimp only
    split
    · exact ⟨"CREATE UNIQUE INDEX", by decide, by decide⟩
    · split
      · exact ⟨"CREATE FULLTEXT INDEX", by decide, by decide⟩
      · exact ⟨"CREATE INDEX", by decide, by decide⟩
  | addUnique => exact ⟨"CREATE UNIQUE INDEX", by decide, rfl⟩
  | dropUnique | dropIndex => exact ⟨"DROP INDEX", by decide, rfl⟩
  | createTrigger => exact ⟨"CREATE TRIGGER", by decide, rfl⟩
  | dropTrigger => exact ⟨"DROP TRIGGER IF EXISTS", by decide, rfl⟩
  | _ => exact ⟨"ALTER TABLE", by decide, rfl⟩

/-- The text of a statement has all its names, with the words that lead to them. -/
theorem exists_toList_text (s : Statement) :
    ∃ r, s.text.toList = s.opening.text ++ (s.links.flatMap Lead.text ++ r) := by
  obtain ⟨w, hw, hopening⟩ := words_opening s
  obtain ⟨hne, hvisible⟩ := visible_heads w hw
  have hleads : s.draftText.toList =
      (s.opening.text ++ s.links.flatMap Lead.text) ++ s.ending.toList := by
    rw [toList_draftText, List.append_assoc]
  have hhead : ∀ c ∈ (s.opening.text ++ s.links.flatMap Lead.text).head?, isBlank c = false := by
    intro c hc
    rw [Lead.text, hopening, String.toList_append, List.append_assoc, List.append_assoc,
      List.head?_append_of_ne_nil _ hne] at hc
    rw [Option.mem_def.1 hc] at hvisible
    simpa using hvisible
  obtain ⟨r, hr⟩ := terminated_append hleads (by simp [Lead.text, quotedIdent]) hhead
    ((endsVisibly_lead _).append (endsVisibly_leads _))
  exact ⟨r, by rw [text, hr, List.append_assoc]⟩

theorem words_quotedIdent_append (name s : List Char) : words (quotedIdent name ++ s) ≠ [] :=
  words_ne_nil (c := backQuote) (List.mem_append_left _ List.mem_cons_self) (by decide)

/-- The words at the start are left as they are by the normal form. -/
theorem exists_normalForm_text (s : Statement) :
    ∃ r, normalForm s.text = s.opening.words.toList ++ r := by
  obtain ⟨w, hw, hopening⟩ := words_opening s
  obtain ⟨hnormal, hne⟩ := normal_heads w hw
  obtain ⟨r, hr⟩ := exists_toList_text s
  rw [Lead.text, hopening, String.toList_append, List.append_assoc, List.append_assoc] at hr
  rw [hopening, String.toList_append, normalForm_append hr hne (words_quotedIdent_append _ _),
    hnormal]
  exact ⟨_, by rw [List.append_assoc]; rfl⟩

def columnMarkers : List String :=
  ["CHANGE COLUMN", "DROP COLUMN"]

theorem normal_columnMarkers : ∀ m ∈ columnMarkers,
    upper (spaced m.toList) = m.toList ∧ words m.toList ≠ [] := by
  decide

/-- The words that change a column stand between the name of the table and that of the column, so
that neither can hide them. -/
theorem changesColumn_text {s : Statement} {m name : String} {r : List Lead}
    (hm : m ∈ columnMarkers) (hlinks : s.links = ⟨" " ++ m ++ " ", name⟩ :: r) :
    changesColumn (normalForm s.text) = true := by
  obtain ⟨hnormal, hmarker⟩ := normal_columnMarkers m hm
  obtain ⟨t, ht⟩ := exists_toList_text s
  have hspace : " ".toList = [' '] := rfl
  have htext : s.text.toList = s.opening.text ++ ' ' :: (m.toList ++
      ' ' :: (quotedIdent name.toList ++ (r.flatMap Lead.text ++ t))) := by
    simp [ht, hlinks, Lead.text, hspace]
  have hrest := words_quotedIdent_append name.toList (r.flatMap Lead.text ++ t)
  have hmiddle : words (m.toList ++ ' ' :: (quotedIdent name.toList ++
      (r.flatMap Lead.text ++ t))) ≠ [] := by
    rw [words_append_blank rfl]
    exact List.append_ne_nil_of_left_ne_nil hmarker _
  have hopening : words s.opening.text ≠ [] :=
    words_ne_nil (c := backQuote) (by simp [Lead.text, quotedIdent]) (by decide)
  have hinfix : (" " ++ m ++ " ").toList <:+: normalForm s.text := by
    rw [normalForm_append htext hopening hmiddle, spaced_append hmarker hrest, upper_append, hnormal]
    refine ⟨upper (spaced s.opening.text), upper (spaced (quotedIdent name.toList ++
      (r.flatMap Lead.text ++ t))), ?_⟩
    simp [hspace, upper, upperChar]
  rw [← occurs_iff_isInfix] at hinfix
  unfold changesColumn
  rw [Bool.or_eq_true, Bool.or_eq_true]
  simp only [columnMarkers, List.mem_cons, List.not_mem_nil, or_false] at hm
  rcases hm with rfl | rfl
  · exact .inl (.inl hinfix)
  · exact .inr hinfix

theorem kindWord_mem (i : Index) : "CREATE " ++ i.kindWord ++ "INDEX " ∈ indexHeads := by
  unfold Index.kindWord
  split
  · decide
  · split <;> decide

/-- No statement about a trigger is warned of. -/
theorem assess_of_isTrigger {s : Statement} (h : s.isTrigger = true) : assess s.text = none := by
  obtain ⟨r, hr⟩ := exists_normalForm_text s
  cases s with
  | createTrigger t g => exact assess_trigger (w := "CREATE TRIGGER ") (by decide) hr
  | dropTrigger g => exact assess_trigger (w := "DROP TRIGGER IF EXISTS ") (by decide) hr
  | _ => cases h

/-- Every other statement is, by a warning that quotes it and fits what it does. -/
theorem assess_of_not_isTrigger {s : Statement} (h : s.isTrigger = false) :
    ∃ w, assess s.text = some w ∧ w.statement = s.text ∧ s.Risks w.severity := by
  obtain ⟨r, hr⟩ := exists_normalForm_text s
  have hchange : ∀ {m name : String} {l : List Lead}, m ∈ columnMarkers →
      s.links = ⟨" " ++ m ++ " ", name⟩ :: l → s.opening.words = "ALTER TABLE " →
      ∃ w, assess s.text = some w ∧ w.statement = s.text ∧ w.severity = .high := by
    intro m name l hm hlinks hwords
    rw [hwords] at hr
    obtain ⟨w, hw, hs, hseverity⟩ := assess_alter hr
    rw [changesColumn_text hm hlinks, if_pos rfl] at hseverity
    exact ⟨w, hw, hs, hseverity⟩
  have halter : s.opening.words = "ALTER TABLE " →
      ∃ w, assess s.text = some w ∧ w.statement = s.text ∧
        (w.severity = .medium ∨ w.severity = .high) := by
    intro hwords
    rw [hwords] at hr
    obtain ⟨w, hw, hs, hseverity⟩ := assess_alter hr
    refine ⟨w, hw, hs, ?_⟩
    rw [hseverity]
    split
    · exact .inr rfl
    · exact .inl rfl
  cases s with
  | createTrigger t g => cases h
  | dropTrigger g => cases h
  | changeColumn t b c => exact hchange (m := "CHANGE COLUMN") (by decide) rfl rfl
  | dropColumn t c => exact hchange (m := "DROP COLUMN") (by decide) rfl rfl
  | addColumn t c => exact halter rfl
  | addForeignKey t k => exact halter rfl
  | dropForeignKey t k => exact halter rfl
  | addUnique t c => exact assess_index (w := "CREATE UNIQUE INDEX ") (by decide) hr
  | dropUnique t b => exact assess_index (w := "DROP INDEX ") (by decide) hr
  | dropIndex t i => exact assess_index (w := "DROP INDEX ") (by decide) hr
  | createIndex t i => exact assess_index (kindWord_mem i) hr

end Statement

end TableDraft
