import TableDraft.Proofs.Script.Plain
import TableDraft.Proofs.Sql.Default
import TableDraft.Proofs.Sql.Terminator
import TableDraft.Sql.ColumnType

namespace TableDraft
open TableDraft.Sql TableDraft.Text TableDraft.Script

def isNumeric (c : Char) : Bool :=
  c.isDigit || c == '-'

theorem Mark.numeric_text (n : Int) : ∀ c ∈ (Mark.number n).text.toList, isNumeric c = true := by
  have hdigits : ∀ (m : Nat), ∀ c ∈ (Nat.repr m).toList, isNumeric c = true := by
    intro m c hc
    rw [Nat.repr, String.toList_ofList] at hc
    simp [isNumeric, Nat.isDigit_of_mem_toDigits (by decide) (by decide) hc]
  cases n with
  | ofNat m => exact hdigits m
  | negSucc m =>
    intro c hc
    have hs : (Mark.number (.negSucc m)).text.toList = '-' :: (Nat.repr (m + 1)).toList := by
      change ("-" ++ Nat.repr (m + 1)).toList = _
      rw [String.toList_append]
      rfl
    rw [hs, List.mem_cons] at hc
    rcases hc with rfl | hc
    · rfl
    · exact hdigits _ c hc

theorem numeric_cases {c : Char} (h : isNumeric c = true) :
    (48 ≤ c.toNat ∧ c.toNat ≤ 57) ∨ c.toNat = 45 := by
  simp only [isNumeric, Bool.or_eq_true, beq_iff_eq] at h
  rcases h with h | rfl
  · left
    simpa [Char.isDigit, UInt32.le_iff_toNat_le] using h
  · right
    rfl

theorem Script.plain_of_numeric {s : List Char} (h : ∀ c ∈ s, isNumeric c = true) : Plain s := by
  have hupper : upper s = s := by
    have hc : ∀ c ∈ s, upperChar c = [c] := by
      intro c m
      have hn := numeric_cases (h c m)
      have hlow : c.toNat < 0x80 := by omega
      have hnot : ¬(97 ≤ c.toNat ∧ c.toNat ≤ 122) := by omega
      simp [upperChar, hlow, hnot]
    rw [upper, List.flatMap_congr hc, List.flatMap_singleton']
  have hnone : ∀ (c : Char) (w : List Char), isNumeric c = false → ¬c :: w <:+: upper s := by
    intro c w hn hi
    have hc := h c (hupper ▸ hi.subset List.mem_cons_self)
    rw [hn] at hc
    cases hc
  refine ⟨fun c m => ?_, fun m => absurd (h _ m) (by decide), ?_, ?_⟩
  · by_contra hq
    rw [Bool.not_eq_false] at hq
    simp only [isQuote, Bool.or_eq_true, beq_iff_eq] at hq
    rcases hq with (rfl | rfl) | rfl <;> exact absurd (h _ m) (by decide)
  · exact hnone 'B' _ rfl
  · exact hnone 'C' _ rfl

def Mark.word? : Mark → Option String
  | number _ => none
  | word s => some s

/-- Type, length and default bring no quotes, semicolons and block words of their own, and the
default no backslash either. -/
structure Column.WritesPlainly (c : Column) : Prop where
  dataType : Plain c.dataType.toList
  length : ∀ w ∈ c.length.bind Mark.word?, Plain w.toList
  default : ∀ d ∈ c.defaultValue, Plain d.toList ∧ '\\' ∉ d.toList

theorem Column.writesPlainly_iff (c : Column) : c.WritesPlainly ↔ Plain c.dataType.toList ∧
    (∀ w ∈ c.length.bind Mark.word?, Plain w.toList) ∧
    ∀ d ∈ c.defaultValue, Plain d.toList ∧ '\\' ∉ d.toList :=
  ⟨fun ⟨ht, hl, hd⟩ => ⟨ht, hl, hd⟩, fun ⟨ht, hl, hd⟩ => ⟨ht, hl, hd⟩⟩

instance (c : Column) : Decidable c.WritesPlainly :=
  decidable_of_iff' _ c.writesPlainly_iff

namespace Sql

def nullability (c : Column) : List Char :=
  if c.nullable then " NULL".toList else " NOT NULL".toList

def defaultClause (c : Column) : List Char :=
  match defaultLiteral? c.defaultValue c.nullable with
  | some d => " DEFAULT ".toList ++ d.toList
  | none => []

def incrementClause (c : Column) : List Char :=
  if c.autoIncrement then " AUTO_INCREMENT".toList else []

/-- What stands behind the nullability. -/
def clauses (c : Column) : List Char :=
  defaultClause c ++ incrementClause c

theorem toList_columnDefinition (c : Column) : (columnDefinition c).toList =
    (columnType c).toList ++ (nullability c ++ (defaultClause c ++ incrementClause c)) := by
  unfold columnDefinition nullability defaultClause incrementClause
  cases defaultLiteral? c.defaultValue c.nullable <;> cases c.nullable <;>
    cases c.autoIncrement <;> simp

theorem defaultClause_of_none {c : Column}
    (h : defaultLiteral? c.defaultValue c.nullable = none) : defaultClause c = [] := by
  rw [defaultClause, h]

theorem defaultClause_of_some {c : Column} {d : String}
    (h : defaultLiteral? c.defaultValue c.nullable = some d) :
    defaultClause c = " DEFAULT ".toList ++ d.toList := by
  rw [defaultClause, h]

theorem trimRight_clauses (c : Column) : trimRight (clauses c) = clauses c := by
  have hdefault : ∀ x ∈ (defaultClause c).getLast?, isBlank x = false := by
    cases h : defaultLiteral? c.defaultValue c.nullable with
    | none =>
      rw [defaultClause_of_none h]
      exact nofun
    | some d =>
      obtain ⟨hne, hlast⟩ := getLast?_defaultLiteral h
      rwa [defaultClause_of_some h, List.getLast?_append_of_ne_nil _ hne]
  have hincrement : trimRight (incrementClause c) = incrementClause c := by
    unfold incrementClause
    split <;> rfl
  rw [clauses, trimRight_append _ hdefault, hincrement]

/-- No definition ends in a blank. -/
theorem trimRight_columnDefinition (c : Column) :
    trimRight (columnDefinition c).toList = (columnDefinition c).toList := by
  have hnull : nullability c ≠ [] ∧ ∀ x ∈ (nullability c).getLast?, isBlank x = false := by
    unfold nullability
    split <;> exact ⟨by decide, fun x hx => by cases hx; rfl⟩
  have hlast : ∀ x ∈ ((columnType c).toList ++ nullability c).getLast?, isBlank x = false := by
    rw [List.getLast?_append_of_ne_nil _ hnull.1]
    exact hnull.2
  rw [toList_columnDefinition, ← clauses, ← List.append_assoc, trimRight_append _ hlast,
    trimRight_clauses]

/-- The words of a definition that are the same for all columns. -/
def clauseWords : List String :=
  ["", "NULL", " NULL", " NOT NULL", " DEFAULT ", " AUTO_INCREMENT"]

theorem plain_clauseWords : ∀ w ∈ clauseWords, Plain w.toList := by
  decide +kernel

theorem plain_lengthText {c : Column} (h : c.WritesPlainly) : Plain (lengthText c.length) := by
  cases hl : c.length with
  | none => exact plain_clauseWords "" (by decide)
  | some m =>
    refine Plain.of_isInfix ?_ (trim_isInfix m.text.toList)
    cases m with
    | number n => exact plain_of_numeric (Mark.numeric_text n)
    | word w => exact h.length w (by simp [hl, Mark.word?])

theorem whole_columnType {c : Column} (h : c.WritesPlainly) : Whole (columnType c).toList := by
  have htype : Whole (trim c.dataType.toList) :=
    whole_plain (h.dataType.of_isInfix (trim_isInfix _))
  have hclose : Whole [')'] := whole_nil.cons (by decide) rfl (by decide)
  have hlength : Whole (lengthText c.length ++ [')']) :=
    (whole_plain (plain_lengthText h)).append hclose (by decide)
  simp only [columnType, String.toList_ofList]
  split
  · exact htype
  · exact htype.append (hlength.cons (by decide) rfl (by decide)) (by rfl)

theorem whole_quotedString {s : List Char} (h : '\\' ∉ s) : Whole (quotedString s) :=
  whole_quoted s rfl (.inr h)

/-- The literal of a plain default, with the facts that both its uses need. -/
theorem defaultLiteral_plain {c : Column} (h : c.WritesPlainly) {d : String}
    (hd : defaultLiteral? c.defaultValue c.nullable = some d) :
    Whole d.toList ∧ EndsVisibly d.toList ∧ d.toList ≠ [] := by
  obtain ⟨v, hv, hne, ⟨-, -, rfl⟩ | ⟨-, hd⟩⟩ := defaultLiteral?_eq_some.1 hd
  · exact ⟨whole_plain (plain_clauseWords _ (by decide)), by decide, by decide⟩
  obtain ⟨hplain, hslash⟩ := h.default v hv
  have htrim : Plain (trim v.toList) := hplain.of_isInfix (trim_isInfix _)
  rw [hd]
  -- the default is written as it is, or as a quoted text
  split
  · refine ⟨whole_plain htrim, fun x hx => ⟨(trim_trimmed _).2 x hx, ?_⟩, hne⟩
    rintro rfl
    exact htrim.noSemicolon (List.mem_of_mem_getLast? hx)
  · have hslash : '\\' ∉ trim v.toList := fun m => hslash ((trim_isInfix _).subset m)
    exact ⟨whole_quotedString hslash, endsVisibly_quoted _ (by decide), by simp [quotedString]⟩

theorem atBreak_clauses (c : Column) : atBreak (clauses c) = true := by
  unfold clauses defaultClause incrementClause
  split <;> split <;> rfl

/-- The clauses behind the nullability are taken whole if the default is. -/
theorem whole_clauses {c : Column}
    (h : ∀ d, defaultLiteral? c.defaultValue c.nullable = some d → Whole d.toList) :
    Whole (clauses c) := by
  have hdefault : Whole (defaultClause c) := by
    unfold defaultClause
    split
    next d hd =>
      have hwords := plain_clauseWords " DEFAULT " (by decide)
      exact (h d hd).after_plain hwords (by decide)
    next => exact whole_nil
  have hincrement : Whole (incrementClause c) ∧ atBreak (incrementClause c) = true := by
    unfold incrementClause
    split
    · exact ⟨whole_plain (plain_clauseWords _ (by decide)), rfl⟩
    · exact ⟨whole_nil, rfl⟩
  exact hdefault.append hincrement.1 hincrement.2

theorem whole_columnDefinition {c : Column} (h : c.WritesPlainly) :
    Whole (columnDefinition c).toList := by
  have hnull : Whole (nullability c) ∧ atBreak (nullability c) = true := by
    unfold nullability
    split <;> exact ⟨whole_plain (plain_clauseWords _ (by decide)), rfl⟩
  have hclauses := whole_clauses fun d hd => (defaultLiteral_plain h hd).1
  have hbreak := atBreak_clauses c
  rw [toList_columnDefinition]
  exact (whole_columnType h).append (hnull.1.append hclauses hbreak) (atBreak_append hnull.2 hbreak)

/-- The clauses do not end in a semicolon if the default does not. -/
theorem endsVisibly_clauses {c : Column}
    (h : ∀ d, defaultLiteral? c.defaultValue c.nullable = some d →
      EndsVisibly d.toList ∧ d.toList ≠ []) :
    EndsVisibly (clauses c) := by
  have hdefault : EndsVisibly (defaultClause c) := by
    unfold defaultClause
    split
    next d hd => exact (h d hd).1.behind _ (h d hd).2
    next => decide
  have hincrement : EndsVisibly (incrementClause c) := by
    unfold incrementClause
    split <;> decide
  exact hdefault.append hincrement

theorem endsVisibly_columnDefinition {c : Column} (h : c.WritesPlainly) :
    EndsVisibly (columnDefinition c).toList := by
  have hnull : EndsVisibly (nullability c) ∧ nullability c ≠ [] := by
    unfold nullability
    split <;> exact ⟨by decide, by decide⟩
  have hclauses := endsVisibly_clauses fun d hd => (defaultLiteral_plain h hd).2
  rw [toList_columnDefinition]
  exact (hnull.1.append hclauses).behind _ (by simp [hnull.2])

end Sql

end TableDraft
