import TableDraft.Diff
import TableDraft.Proofs.Sql.Arguments

namespace TableDraft
open TableDraft.Sql TableDraft.Text

theorem toList_looseLength (length : Option Mark) : (looseLength length).toList = lengthText length := by
  cases length with
  | none => rfl
  | some m => exact toList_trimmed m.text

theorem lengthsEqual_iff {a b : Option Mark} : lengthsEqual a b = true ↔ lengthText a = lengthText b := by
  rw [lengthsEqual, beq_iff_eq, ← toList_looseLength, ← toList_looseLength, String.toList_inj]

namespace Column

/-- The type has parentheses of its own, so that no length is written beside it. -/
def BringsList (c : Column) : Prop :=
  '(' ∈ trim c.dataType.toList

/-- The type of `c` is that of `b` with the length of `b`. -/
def SpellsLengthOf (c b : Column) : Prop :=
  ¬b.BringsList ∧ lengthText b.length ≠ [] ∧
    trim c.dataType.toList = trim b.dataType.toList ++ '(' :: (lengthText b.length ++ [')'])

/-- The types are written in the same way. -/
inductive TypedLike (b c : Column) : Prop
  | ofList (htype : trimmed b.dataType = trimmed c.dataType) (hlist : b.BringsList)
  | ofLength (htype : trimmed b.dataType = trimmed c.dataType)
    (hlength : lengthsEqual b.length c.length = true)
  | spelledAfter (h : c.SpellsLengthOf b)
  | spelledBefore (h : b.SpellsLengthOf c)

/-- The type of `c`, with its length, is that of `b` and a `NOT`, which only `b` has as a field. -/
def SpellsNotOf (c b : Column) : Prop :=
  c.nullable = true ∧ b.nullable = false ∧ columnType c = columnType b ++ " NOT"

/-- But for their names and defaults, the columns are written in the same way. -/
structure WrittenLike (b c : Column) : Prop where
  autoIncrement : b.autoIncrement = c.autoIncrement
  type : (b.nullable = c.nullable ∧ b.TypedLike c) ∨ c.SpellsNotOf b ∨ b.SpellsNotOf c

def withoutDefault (c : Column) : Column :=
  { c with defaultValue := none }

end Column

namespace Sql
open Column

variable {b c : Column}

theorem toList_columnType_of_length (hlist : ¬c.BringsList) (hlength : lengthText c.length ≠ []) :
    (columnType c).toList =
      trim c.dataType.toList ++ '(' :: (lengthText c.length ++ [')']) := by
  have hempty : (lengthText c.length).isEmpty = false := List.isEmpty_eq_false_iff.2 hlength
  have hopen : (trim c.dataType.toList).contains '(' = false := by
    simpa [BringsList] using hlist
  simp only [columnType, hempty, hopen, Bool.or_false, Bool.false_eq_true, if_false,
    String.toList_ofList]

theorem toList_columnType_of_bare (h : c.BringsList ∨ lengthText c.length = []) :
    (columnType c).toList = trim c.dataType.toList := by
  have hbare : ((lengthText c.length).isEmpty || (trim c.dataType.toList).contains '(') = true := by
    rw [Bool.or_eq_true, List.isEmpty_iff, List.contains_iff_mem]
    exact h.symm
  simp only [columnType, hbare, if_true, String.toList_ofList]

theorem bare_or_length (c : Column) : (c.BringsList ∨ lengthText c.length = []) ∨
    (¬c.BringsList ∧ lengthText c.length ≠ []) := by
  by_cases hlist : c.BringsList
  · exact .inl (.inl hlist)
  · by_cases hlength : lengthText c.length = []
    · exact .inl (.inr hlength)
    · exact .inr ⟨hlist, hlength⟩

theorem trimmed_dataType_eq_iff : trimmed b.dataType = trimmed c.dataType ↔
    trim b.dataType.toList = trim c.dataType.toList := by
  rw [← String.toList_inj, toList_trimmed, toList_trimmed]

theorem typedLike_of_columnType (h : columnType b = columnType c) : b.TypedLike c := by
  have hlist := congrArg String.toList h
  rcases bare_or_length b with hb | ⟨hb, hbl⟩ <;> rcases bare_or_length c with hc | ⟨hc, hcl⟩
  · rw [toList_columnType_of_bare hb, toList_columnType_of_bare hc] at hlist
    have htype := trimmed_dataType_eq_iff.2 hlist
    by_cases hown : b.BringsList
    · exact .ofList htype hown
    · have hown' : ¬c.BringsList := by rwa [BringsList, ← hlist]
      exact .ofLength htype (lengthsEqual_iff.2
        ((hb.resolve_left hown).trans (hc.resolve_left hown').symm))
  · rw [toList_columnType_of_bare hb, toList_columnType_of_length hc hcl] at hlist
    exact .spelledBefore ⟨hc, hcl, hlist⟩
  · rw [toList_columnType_of_length hb hbl, toList_columnType_of_bare hc] at hlist
    exact .spelledAfter ⟨hb, hbl, hlist.symm⟩
  · rw [toList_columnType_of_length hb hbl, toList_columnType_of_length hc hcl] at hlist
    -- neither type has a parenthesis, so both end at the first one
    have htake := congrArg (List.takeWhile (· != '(')) hlist
    have hdrop := congrArg (List.dropWhile (· != '(')) hlist
    rw [takeWhile_ne_append hb, takeWhile_ne_append hc] at htake
    rw [dropWhile_ne_append hb, dropWhile_ne_append hc, List.cons.injEq, List.append_left_inj] at hdrop
    exact .ofLength (trimmed_dataType_eq_iff.2 htake) (lengthsEqual_iff.2 hdrop.2)

theorem columnType_of_spellsLength (h : c.SpellsLengthOf b) : columnType b = columnType c := by
  obtain ⟨hlist, hlength, htype⟩ := h
  have hown : c.BringsList := by
    rw [BringsList, htype]
    exact List.mem_append_right _ List.mem_cons_self
  rw [← String.toList_inj, toList_columnType_of_length hlist hlength,
    toList_columnType_of_bare (.inl hown), htype]

theorem columnType_eq_iff : columnType b = columnType c ↔ b.TypedLike c := by
  refine ⟨typedLike_of_columnType, fun h => ?_⟩
  cases h with
  | ofList htype hlist =>
    have hlist' : c.BringsList := by rwa [BringsList, ← trimmed_dataType_eq_iff.1 htype]
    rw [← String.toList_inj, toList_columnType_of_bare (.inl hlist),
      toList_columnType_of_bare (.inl hlist'), trimmed_dataType_eq_iff.1 htype]
  | ofLength htype hlength =>
    simp only [columnType, trimmed_dataType_eq_iff.1 htype, lengthsEqual_iff.1 hlength]
  | spelledAfter h => exact columnType_of_spellsLength h
  | spelledBefore h => exact (columnType_of_spellsLength h).symm

theorem columnDefinition_congr (htype : columnType b = columnType c)
    (hnull : b.nullable = c.nullable)
    (hdefault : defaultLiteral? b.defaultValue b.nullable = defaultLiteral? c.defaultValue c.nullable)
    (hincrement : b.autoIncrement = c.autoIncrement) : columnDefinition b = columnDefinition c := by
  rw [columnDefinition, columnDefinition, htype, hdefault, hnull, hincrement]

theorem toList_columnDefinition_withoutDefault (c : Column) :
    (columnDefinition c.withoutDefault).toList =
      ((columnType c).toList ++ nullability c) ++ incrementClause c := by
  rw [toList_columnDefinition, defaultClause_of_none rfl, List.nil_append, ← List.append_assoc]
  rfl

/-- Only what increments itself ends in the word for it. -/
theorem autoIncrement_eq_of_definition
    (h : columnDefinition b.withoutDefault = columnDefinition c.withoutDefault) :
    b.autoIncrement = c.autoIncrement := by
  have hlast : ∀ c : Column, (columnDefinition c.withoutDefault).toList.getLast? =
      some (if c.autoIncrement then 'T' else 'L') := by
    intro c
    rw [toList_columnDefinition_withoutDefault]
    unfold incrementClause nullability
    cases c.autoIncrement <;> cases c.nullable <;> simp [List.getLast?_append]
  have hsame := hlast b
  rw [h, hlast c, Option.some_inj] at hsame
  cases hb : b.autoIncrement <;> cases hc : c.autoIncrement <;> simp_all

theorem append_nullability_eq_iff :
    (columnType b).toList ++ nullability b = (columnType c).toList ++ nullability c ↔
      (b.nullable = c.nullable ∧ b.TypedLike c) ∨ c.SpellsNotOf b ∨ b.SpellsNotOf c := by
  have hnot : ∀ x y : String, x.toList ++ " NULL".toList = y.toList ++ " NOT NULL".toList ↔
      x = y ++ " NOT" := by
    intro x y
    have hwords : " NOT NULL".toList = " NOT".toList ++ " NULL".toList := by decide
    rw [hwords, ← List.append_assoc, List.append_left_inj, ← String.toList_append, String.toList_inj]
  have hsame : ∀ n : List Char, (columnType b).toList ++ n = (columnType c).toList ++ n ↔
      b.TypedLike c := by
    intro n
    rw [List.append_left_inj, String.toList_inj, columnType_eq_iff]
  unfold nullability SpellsNotOf
  cases hb : b.nullable <;> cases hc : c.nullable <;>
    simp only [if_true, if_false, Bool.false_eq_true, Bool.true_eq_false, true_and, false_and,
      or_false, false_or, hsame, hnot]
  -- the columns change places where it is `c` that spells the word
  rw [eq_comm, hnot]

theorem columnDefinition_withoutDefault_eq_iff :
    columnDefinition b.withoutDefault = columnDefinition c.withoutDefault ↔ b.WrittenLike c := by
  have htexts : b.autoIncrement = c.autoIncrement →
      (columnDefinition b.withoutDefault = columnDefinition c.withoutDefault ↔
        (columnType b).toList ++ nullability b = (columnType c).toList ++ nullability c) := by
    intro h
    have hclause : incrementClause b = incrementClause c := by
      rw [incrementClause, incrementClause, h]
    rw [← String.toList_inj, toList_columnDefinition_withoutDefault,
      toList_columnDefinition_withoutDefault, hclause, List.append_left_inj]
  constructor
  · intro h
    have hincrement := autoIncrement_eq_of_definition h
    exact ⟨hincrement, append_nullability_eq_iff.1 ((htexts hincrement).1 h)⟩
  · rintro ⟨hincrement, htype⟩
    exact (htexts hincrement).2 (append_nullability_eq_iff.2 htype)

end Sql

end TableDraft
