import TableDraft.Proofs.Sql.ColumnDefinition
import TableDraft.Proofs.Statement.Pieces

namespace TableDraft
open TableDraft.Sql TableDraft.Text TableDraft.Script

namespace Statement

/-- The statement creates no trigger, and the column it defines, if any, is written plainly. -/
def WritesPlainly : Statement → Prop
  | addColumn _ c | changeColumn _ _ c => c.WritesPlainly
  | createTrigger .. => False
  | _ => True

/-- The words with which a statement begins that creates no trigger. -/
def openingWords : List String :=
  ["ALTER TABLE ", "CREATE UNIQUE INDEX ", "CREATE FULLTEXT INDEX ", "CREATE INDEX ", "DROP INDEX ",
    "DROP TRIGGER IF EXISTS "]

/-- The words between the names of such a statement. -/
def linkWords : List String :=
  [" ADD COLUMN ", " CHANGE COLUMN ", " ", " DROP COLUMN ", " ON ", " (", ", ", " ADD CONSTRAINT ",
    " FOREIGN KEY (", ") REFERENCES ", " DROP FOREIGN KEY "]

/-- What ends such a statement, unless a column does. -/
def closings : List String :=
  [")", " ()", ""]

theorem words_opening_mem {s : Statement} (h : s.WritesPlainly) :
    s.opening.words ∈ openingWords := by
  cases s with
  | createTrigger t g => exact h.elim
  | createIndex t i =>
    unfold opening Index.kindWord
    dsimp only
    split
    · decide
    · split <;> decide
  | _ => simp [opening, openingWords]

theorem words_columnLeads_mem {columns : List String} {l : Lead}
    (h : l ∈ Index.columnLeads columns) : l.words ∈ linkWords := by
  cases columns with
  | nil => cases h
  | cons c r =>
    simp only [Index.columnLeads, List.mem_cons, List.mem_map] at h
    rcases h with rfl | ⟨d, -, rfl⟩ <;> simp [linkWords]

theorem words_links_mem {s : Statement} (h : s.WritesPlainly) {l : Lead} (hl : l ∈ s.links) :
    l.words ∈ linkWords := by
  cases s with
  | createTrigger t g => exact h.elim
  | createIndex t i =>
    rcases List.mem_cons.1 hl with rfl | hl
    · simp [linkWords]
    · exact words_columnLeads_mem hl
  | dropTrigger g => cases hl
  | _ =>
    simp only [links, List.mem_cons, List.not_mem_nil, or_false] at hl
    rcases hl with rfl | rfl | rfl | rfl <;> simp [linkWords]

theorem plain_openingWords : ∀ w ∈ openingWords,
    Plain w.toList ∧ endsInWord w.toList = false := by
  decide +kernel

theorem plain_linkWords : ∀ w ∈ linkWords,
    Plain w.toList ∧ endsInWord w.toList = false ∧ w.toList ≠ [] ∧ atBreak w.toList = true := by
  decide +kernel

theorem plain_closings : ∀ w ∈ closings,
    Plain w.toList ∧ atBreak w.toList = true ∧ EndsVisibly w.toList := by
  decide +kernel

theorem whole_lead {l : Lead} (h : Plain l.words.toList ∧ endsInWord l.words.toList = false) :
    Whole l.text :=
  (whole_quotedIdent _).after_plain h.1 h.2

theorem whole_links {links : List Lead} (h : ∀ l ∈ links, l.words ∈ linkWords)
    {e : List Char} (he : Whole e) (hb : atBreak e = true) :
    Whole (links.flatMap Lead.text ++ e) ∧ atBreak (links.flatMap Lead.text ++ e) = true := by
  induction links with
  | nil => exact ⟨he, hb⟩
  | cons l r ih =>
    obtain ⟨hw, hbreak⟩ := ih fun x hx => h x (List.mem_cons_of_mem l hx)
    obtain ⟨hplain, hends, hne, hstart⟩ := plain_linkWords _ (h l List.mem_cons_self)
    rw [List.flatMap_cons, List.append_assoc]
    refine ⟨(whole_lead ⟨hplain, hends⟩).append hw hbreak, ?_⟩
    rw [Lead.text, List.append_assoc]
    exact (atBreak_append_of_ne_nil _ hne).trans hstart

theorem whole_ending {s : Statement} (h : s.WritesPlainly) :
    Whole s.ending.toList ∧ atBreak s.ending.toList = true := by
  have hclose : ∀ w ∈ closings, Whole w.toList ∧ atBreak w.toList = true := fun w hw =>
    ⟨whole_plain (plain_closings w hw).1, (plain_closings w hw).2.1⟩
  have hcolumn : ∀ {c : Column}, c.WritesPlainly →
      Whole (" " ++ columnDefinition c).toList ∧
        atBreak (" " ++ columnDefinition c).toList = true := by
    intro c hc
    rw [String.toList_append]
    obtain ⟨hblank, hends, -⟩ := plain_linkWords " " (by decide)
    exact ⟨(whole_columnDefinition hc).after_plain hblank hends, rfl⟩
  cases s with
  | addColumn t c => exact hcolumn h
  | changeColumn t b c => exact hcolumn h
  | createTrigger t g => exact h.elim
  | addUnique | addForeignKey => exact hclose ")" (by decide)
  | createIndex t i =>
    unfold ending
    dsimp only
    split <;> exact hclose _ (by decide)
  | _ => exact hclose "" (by decide)

theorem whole_draftText {s : Statement} (h : s.WritesPlainly) : Whole s.draftText.toList := by
  obtain ⟨hending, hbreak⟩ := whole_ending h
  obtain ⟨hlinks, hstart⟩ := whole_links (fun l hl => words_links_mem h hl) hending hbreak
  rw [toList_draftText]
  exact (whole_lead (plain_openingWords _ (words_opening_mem h))).append hlinks hstart

theorem visible_openingWords : ∀ w ∈ openingWords,
    w.toList ≠ [] ∧ (w.toList.head?.all fun c => !isBlank c && c != '-') = true := by
  decide

theorem endsVisibly_ending {s : Statement} (h : s.WritesPlainly) :
    EndsVisibly s.ending.toList := by
  have hcolumn : ∀ {c : Column}, c.WritesPlainly →
      EndsVisibly (" " ++ columnDefinition c).toList := by
    intro c hc
    rw [String.toList_append]
    refine (endsVisibly_columnDefinition hc).behind _ fun e => ?_
    rw [toList_columnDefinition] at e
    have : nullability c ≠ [] := by
      unfold nullability
      split <;> decide
    simp_all
  have hclose : ∀ w ∈ closings, EndsVisibly w.toList := fun w hw => (plain_closings w hw).2.2
  cases s with
  | addColumn t c => exact hcolumn h
  | changeColumn t b c => exact hcolumn h
  | createTrigger t g => exact h.elim
  | addUnique | addForeignKey => exact hclose ")" (by decide)
  | createIndex t i =>
    unfold ending
    dsimp only
    split <;> exact hclose _ (by decide)
  | _ => exact hclose "" (by decide)

theorem endsVisibly_lead (l : Lead) : EndsVisibly l.text :=
  (endsVisibly_quotedIdent _).behind _ (List.cons_ne_nil _ _)

theorem endsVisibly_leads (leads : List Lead) : EndsVisibly (leads.flatMap Lead.text) := by
  induction leads with
  | nil => decide
  | cons l r ih =>
    rw [List.flatMap_cons]
    exact (endsVisibly_lead l).append ih

theorem endsVisibly_draftText {s : Statement} (h : s.WritesPlainly) :
    EndsVisibly s.draftText.toList := by
  rw [toList_draftText]
  exact (endsVisibly_lead _).append ((endsVisibly_leads _).append (endsVisibly_ending h))

theorem head?_draftText {s : Statement} (h : s.WritesPlainly) :
    s.draftText.toList ≠ [] ∧ ∀ c ∈ s.draftText.toList.head?, isBlank c = false ∧ c ≠ '-' := by
  obtain ⟨hne, hhead⟩ := visible_openingWords _ (words_opening_mem h)
  rw [toList_draftText, Lead.text, List.append_assoc]
  refine ⟨by simp [hne], fun c hc => ?_⟩
  rw [List.head?_append_of_ne_nil _ hne] at hc
  rw [Option.mem_def.1 hc] at hhead
  simpa using hhead

theorem trimmed_draftText {s : Statement} (h : s.WritesPlainly) : Trimmed s.draftText.toList :=
  ⟨fun c hc => ((head?_draftText h).2 c hc).1, fun c hc => (endsVisibly_draftText h c hc).1⟩

theorem text_eq {s : Statement} (h : s.WritesPlainly) : s.text = s.draftText ++ ";" :=
  terminated_eq (trimmed_draftText h) (endsVisibly_draftText h)

theorem unterminated_text {s : Statement} (h : s.WritesPlainly) :
    unterminated s.text = s.draftText := by
  rw [text_eq h]
  exact unterminated_append (trimmed_draftText h) (head?_draftText h).1

end Statement

end TableDraft
