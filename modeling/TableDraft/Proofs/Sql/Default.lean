import TableDraft.Proofs.Text.Trim
import TableDraft.Sql.Default
import TableDraft.Text.Search

namespace TableDraft.Sql
open TableDraft.Text

/-- Reading two quotes as one undoes the doubling of quotes. -/
theorem replaceAll_doubled (q : Char) (s : List Char) : replaceAll [q, q] [q] (doubled q s) = s := by
  unfold replaceAll
  induction s with
  | nil => rfl
  | cons c r ih =>
    rw [doubled_cons]
    by_cases hc : c = q
    · rw [if_pos hc, hc]
      simp [replaceFrom, ih]
    · rw [if_neg hc]
      simp [replaceFrom, Ne.symm hc, ih]

/-- The literal is the text, or the text in quotes once two of them are read as one. -/
def Spells (literal text : List Char) : Prop :=
  if standsAlone text then literal = text
  else ∃ inner, literal = apostrophe :: (inner ++ [apostrophe]) ∧
    replaceAll [apostrophe, apostrophe] [apostrophe] inner = text

/-- There is a literal for every text but the empty one, and `NULL` where it is allowed. -/
theorem defaultLiteral?_eq_some {value : Option String} {nullable : Bool} {d : String} :
    defaultLiteral? value nullable = some d ↔ ∃ text, value = some text ∧ trim text.toList ≠ [] ∧
      ((upper (trim text.toList) = "NULL".toList ∧ nullable = true ∧ d = "NULL") ∨
        (upper (trim text.toList) ≠ "NULL".toList ∧
          d.toList = if standsAlone (trim text.toList) then trim text.toList
            else quotedString (trim text.toList))) := by
  cases value with
  | none => exact iff_of_false nofun fun ⟨_, h, _⟩ => nomatch h
  | some text =>
    have hexists : ∀ p : String → Prop, (∃ t, some text = some t ∧ p t) ↔ p text := by simp
    rw [hexists, defaultLiteral?]
    by_cases hempty : trim text.toList = []
    · simp [hempty]
    · have hsome : (trim text.toList).isEmpty = false := List.isEmpty_eq_false_iff.2 hempty
      by_cases hnull : upper (trim text.toList) = "NULL".toList
      · simp only [hsome, Bool.false_eq_true, if_false, hnull, hempty, ne_eq, not_true_eq_false,
          not_false_eq_true, true_and, false_and, or_false]
        cases nullable <;> simp [eq_comm]
      · have hword : (upper (trim text.toList) == "NULL".toList) = false := beq_false_of_ne hnull
        simp only [hsome, hword, Bool.false_eq_true, if_false, hnull, hempty, ne_eq, not_false_eq_true,
          true_and, false_and, false_or, Option.some_inj]
        rw [← String.toList_inj, String.toList_ofList, eq_comm]

theorem spells_quotedString {s : List Char} (h : standsAlone s = false) :
    Spells (quotedString s) s := by
  rw [Spells, h]
  exact ⟨_, rfl, replaceAll_doubled apostrophe s⟩

theorem spells_self {s : List Char} (h : standsAlone s = true) : Spells s s := by
  rw [Spells, h]
  rfl

/-- A default that is neither blank nor `NULL` has a literal that says it. -/
theorem exists_defaultLiteral {text : String} (nullable : Bool) (hne : trim text.toList ≠ [])
    (hnull : upper (trim text.toList) ≠ "NULL".toList) :
    ∃ d, defaultLiteral? (some text) nullable = some d ∧ Spells d.toList (trim text.toList) := by
  cases h : standsAlone (trim text.toList) with
  | true =>
    refine ⟨trimmed text, ?_, ?_⟩
    · exact defaultLiteral?_eq_some.2 ⟨text, rfl, hne, .inr ⟨hnull, by simp [h]⟩⟩
    · rw [toList_trimmed]
      exact spells_self h
  | false =>
    refine ⟨String.ofList (quotedString (trim text.toList)), ?_, ?_⟩
    · exact defaultLiteral?_eq_some.2 ⟨text, rfl, hne, .inr ⟨hnull, by simp [h]⟩⟩
    · rw [String.toList_ofList]
      exact spells_quotedString h

/-- No literal ends in a blank. -/
theorem getLast?_defaultLiteral {value : Option String} {nullable : Bool} {d : String}
    (h : defaultLiteral? value nullable = some d) :
    d.toList ≠ [] ∧ ∀ c ∈ d.toList.getLast?, isBlank c = false := by
  obtain ⟨text, -, hne, ⟨-, -, rfl⟩ | ⟨-, hd⟩⟩ := defaultLiteral?_eq_some.1 h
  · exact ⟨by decide, fun c hc => by cases hc; rfl⟩
  · rw [hd]
    split
    · exact ⟨hne, (trim_trimmed _).2⟩
    · refine ⟨List.cons_ne_nil _ _, fun c hc => ?_⟩
      rw [quotedString, ← List.cons_append, List.getLast?_concat, Option.mem_some_iff] at hc
      exact hc ▸ rfl

end TableDraft.Sql
