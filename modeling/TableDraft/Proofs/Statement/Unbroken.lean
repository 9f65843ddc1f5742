import TableDraft.Proofs.Script.Body
import TableDraft.Proofs.Statement.Closed

namespace TableDraft
open TableDraft.Sql TableDraft.Text TableDraft.Script

/-- The texts that a column brings into statements. -/
def Column.texts (c : Column) : List String :=
  c.name :: c.dataType :: (c.originalName.toList ++ (c.length.bind Mark.word?).toList ++
    c.defaultValue.toList)

def Index.texts (i : Index) : List String :=
  i.name :: i.columns

def ForeignKey.texts (k : ForeignKey) : List String :=
  [k.constraintName, k.columnName, k.referencedTable, k.referencedColumn]

/-- The texts that a statement is made of. Of a new trigger only the name counts here. -/
def Statement.texts : Statement → List String
  | addColumn t c | dropColumn t c | addUnique t c | dropUnique t c => t :: c.texts
  | changeColumn t b c => t :: (b.texts ++ c.texts)
  | createIndex t i | dropIndex t i => t :: i.texts
  | addForeignKey t k | dropForeignKey t k => t :: k.texts
  | createTrigger t g => [t, g.name]
  | dropTrigger g => [g.name]

theorem Column.sourceName_mem_texts (c : Column) : c.sourceName ∈ c.texts := by
  unfold sourceName texts
  split
  next s hs =>
    split
    · exact List.mem_cons_self
    · simp [hs]
  next => exact List.mem_cons_self

namespace Text

theorem unbroken_quoted {q : Char} {s : List Char} (hq : isLineBreak q = false)
    (h : Unbroken s) : Unbroken (q :: (doubled q s ++ [q])) := by
  intro c hc
  simp only [doubled, List.mem_cons, List.mem_append, List.mem_flatMap, List.not_mem_nil,
    or_false] at hc
  rcases hc with rfl | ⟨d, hd, hc⟩ | rfl
  · exact hq
  · have hd := h d hd
    split at hc <;> simp_all
  · exact hq

theorem unbroken_quotedIdent {name : List Char} (h : Unbroken name) :
    Unbroken (quotedIdent name) :=
  unbroken_quoted (by decide) (h.of_isInfix (trim_isInfix name))

theorem unbroken_of_numeric {s : List Char} (h : ∀ c ∈ s, isNumeric c = true) : Unbroken s := by
  intro c hc
  have := numeric_cases (h c hc)
  simp [isLineBreak]
  omega

end Text

namespace Sql

theorem unbroken_lengthText {c : Column} (h : ∀ x ∈ c.texts, Unbroken x.toList) :
    Unbroken (lengthText c.length) := by
  cases hl : c.length with
  | none => simp [lengthText, Unbroken]
  | some m =>
    refine Unbroken.of_isInfix ?_ (trim_isInfix m.text.toList)
    cases m with
    | number n => exact unbroken_of_numeric (Mark.numeric_text n)
    | word w => exact h w (by simp [Column.texts, hl, Mark.word?])

theorem unbroken_defaultLiteral {value : Option String} (h : ∀ v ∈ value, Unbroken v.toList)
    {nullable : Bool} {d : String} (hd : defaultLiteral? value nullable = some d) :
    Unbroken d.toList := by
  obtain ⟨v, hv, -, ⟨-, -, rfl⟩ | ⟨-, hd⟩⟩ := defaultLiteral?_eq_some.1 hd
  · decide
  have htrim : Unbroken (trim v.toList) :=
    (h v hv).of_isInfix (trim_isInfix _)
  rw [hd]
  split
  · exact htrim
  · exact unbroken_quoted (by decide) htrim

theorem unbroken_clauses {c : Column} (h : ∀ v ∈ c.defaultValue, Unbroken v.toList) :
    Unbroken (clauses c) := by
  have hdefault : Unbroken (defaultClause c) := by
    unfold defaultClause
    split
    next d hd =>
      exact unbroken_append.2 ⟨by decide, unbroken_defaultLiteral h hd⟩
    next => simp [Unbroken]
  have hincrement : Unbroken (incrementClause c) := by
    unfold incrementClause
    split <;> decide
  exact unbroken_append.2 ⟨hdefault, hincrement⟩

theorem unbroken_columnDefinition {c : Column} (h : ∀ x ∈ c.texts, Unbroken x.toList) :
    Unbroken (columnDefinition c).toList := by
  have htype : Unbroken (trim c.dataType.toList) :=
    (h _ (by simp [Column.texts])).of_isInfix (trim_isInfix _)
  have hparens : Unbroken "(".toList ∧ Unbroken ")".toList := by
    decide
  have hcolumn : Unbroken (columnType c).toList := by
    simp only [columnType, String.toList_ofList]
    split
    · exact htype
    · exact unbroken_append.2 ⟨htype, unbroken_append.2 ⟨hparens.1,
        unbroken_append.2 ⟨unbroken_lengthText h, hparens.2⟩⟩⟩
  have hnull : Unbroken (nullability c) := by
    unfold nullability
    split <;> decide
  have hclauses := unbroken_clauses (c := c) fun v hv =>
    h v (by simp [Column.texts, Option.mem_def.1 hv])
  rw [toList_columnDefinition]
  exact unbroken_append.2 ⟨hcolumn, unbroken_append.2 ⟨hnull, hclauses⟩⟩

end Sql

namespace Statement

theorem unbroken_words : ∀ w ∈ openingWords ++ linkWords, Unbroken w.toList := by
  decide

theorem unbroken_uniqueIndexName {name : String} (h : Unbroken name.toList) :
    Unbroken (uniqueIndexName name).toList := by
  rw [uniqueIndexName, String.toList_append, unbroken_append]
  exact ⟨by decide, h⟩

theorem unbroken_columnLeads (columns : List String) (h : ∀ x ∈ columns, Unbroken x.toList) :
    ∀ l ∈ Index.columnLeads columns, Unbroken l.name.toList := by
  cases columns with
  | nil => simp [Index.columnLeads]
  | cons c r => simpa [Index.columnLeads] using h

theorem unbroken_names {s : Statement} (h : ∀ x ∈ s.texts, Unbroken x.toList) :
    ∀ l ∈ s.opening :: s.links, Unbroken l.name.toList := by
  cases s with
  | changeColumn t b c =>
    have hsource := h _ (List.mem_cons_of_mem t (List.mem_append_left _ b.sourceName_mem_texts))
    simp_all [texts, opening, links, Column.texts]
  | dropUnique t b =>
    have hsource := h _ (List.mem_cons_of_mem t b.sourceName_mem_texts)
    simp_all [texts, opening, links, unbroken_uniqueIndexName]
  | addUnique t c =>
    simp_all [texts, opening, links, Column.texts, unbroken_uniqueIndexName]
  | createIndex t i =>
    have hcolumns := unbroken_columnLeads i.columns
    simp_all [texts, opening, links, Index.texts]
  | _ => simp_all [texts, opening, links, Column.texts, Index.texts, ForeignKey.texts]

theorem unbroken_lead {l : Lead} (hw : l.words ∈ openingWords ++ linkWords)
    (hn : Unbroken l.name.toList) : Unbroken l.text :=
  unbroken_append.2 ⟨unbroken_words _ hw, unbroken_quotedIdent hn⟩

theorem unbroken_ending {s : Statement} (hs : s.WritesPlainly)
    (h : ∀ x ∈ s.texts, Unbroken x.toList) : Unbroken s.ending.toList := by
  have hcolumn : ∀ c : Column, (∀ x ∈ c.texts, Unbroken x.toList) →
      Unbroken (" " ++ columnDefinition c).toList := by
    intro c hc
    rw [String.toList_append, unbroken_append]
    exact ⟨by decide, unbroken_columnDefinition hc⟩
  cases s with
  | addColumn t c => exact hcolumn c fun x hx => h x (List.mem_cons_of_mem t hx)
  | changeColumn t b c =>
    exact hcolumn c fun x hx => h x (List.mem_cons_of_mem t (List.mem_append_right _ hx))
  | createTrigger t g => exact hs.elim
  | addUnique | addForeignKey => exact (by decide : Unbroken ")".toList)
  | createIndex t i =>
    unfold ending
    dsimp only
    split <;> decide
  | _ => exact (by decide : Unbroken "".toList)

theorem unbroken_draftText {s : Statement} (hs : s.WritesPlainly)
    (h : ∀ x ∈ s.texts, Unbroken x.toList) : Unbroken s.draftText.toList := by
  have hnames := unbroken_names h
  have hlinks : Unbroken (s.links.flatMap Lead.text) := by
    intro c hc
    obtain ⟨l, hl, hc⟩ := List.mem_flatMap.1 hc
    have hw := List.mem_append_right openingWords (words_links_mem hs hl)
    exact unbroken_lead hw (hnames l (List.mem_cons_of_mem _ hl)) c hc
  have hopening : Unbroken s.opening.text :=
    unbroken_lead (List.mem_append_left _ (words_opening_mem hs)) (hnames _ List.mem_cons_self)
  rw [toList_draftText]
  exact unbroken_append.2 ⟨hopening, unbroken_append.2 ⟨hlinks, unbroken_ending hs h⟩⟩

end Statement

end TableDraft
