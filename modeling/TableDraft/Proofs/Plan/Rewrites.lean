import TableDraft.Proofs.Plan.Steps
import TableDraft.Proofs.Sql.ColumnType
import TableDraft.Proofs.Statement.LockRisk

namespace TableDraft
open TableDraft.Sql TableDraft.Text

namespace ColumnChange

/-- The change can be seen in the name or the definition of the column as they are written, the default
apart. -/
def Shows (c : ColumnChange) : Prop :=
  trimmed c.before.name ≠ trimmed c.after.name ∨
    columnDefinition c.before.withoutDefault ≠ columnDefinition c.after.withoutDefault

instance (c : ColumnChange) : Decidable c.Shows :=
  inferInstanceAs (Decidable (_ ∨ _))

theorem shows_iff {c : ColumnChange} : c.Shows ↔
    ¬(trimmed c.before.name = trimmed c.after.name ∧ c.before.WrittenLike c.after) := by
  rw [Shows, ← columnDefinition_withoutDefault_eq_iff, not_and_or]

end ColumnChange

/-- How the text of a statement begins that changes a column. -/
def changeHead (table : String) : String :=
  "ALTER TABLE " ++ ident table ++ " CHANGE COLUMN "

namespace Statement

/-- No name can make another statement about the table look like the change of a column. -/
theorem eq_changeColumn_of_head {table : String} {d : Diff} {s : Statement} (hs : s ∈ d.steps table)
    (h : (changeHead table).toList <+: s.text.toList) :
    ∃ c ∈ d.changedColumns, c.definitionChanged = true ∧ s = .changeColumn table c.before c.after := by
  obtain ⟨r, hr⟩ := exists_toList_text s
  rw [changeHead, hr, String.toList_append, String.toList_append, toList_ident] at h
  cases Diff.mem_steps.1 hs with
  | changeColumn hc hd => exact ⟨_, hc, hd, rfl⟩
  | _ => simp [opening, links, Lead.text] at h

end Statement

namespace Plan

variable {snapshot working : Definition} {b c : Column}

/-- Every statement of a plan that rewrites a column is called for by a pair of columns of one id that
differ in a field. It shows in what is written, unless the two are written alike. -/
theorem rewrites_show (database table : String) (snapshot working : Definition) :
    let steps := (Diff.of snapshot working).steps table
    (compile database table snapshot working).statements = steps.map Statement.text ∧
      ∀ s ∈ steps, (changeHead table).toList <+: s.text.toList →
        ∃ c : ColumnChange, s = .changeColumn table c.before c.after ∧
          (c.after ∈ working.columns ∧ c.before.IsLast snapshot.columns ∧
            c.before.id = c.after.id) ∧
          ¬(c.before.name = c.after.name ∧ c.before.dataType = c.after.dataType ∧
            lengthsEqual c.before.length c.after.length = true ∧
            c.before.nullable = c.after.nullable ∧
            c.before.autoIncrement = c.after.autoIncrement) ∧
          (c.Shows ↔ ¬(trimmed c.before.name = trimmed c.after.name ∧
            c.before.WrittenLike c.after)) := by
  intro steps
  refine ⟨rfl, fun s hs hhead => ?_⟩
  obtain ⟨c, hc, hchanged, rfl⟩ := Statement.eq_changeColumn_of_head hs hhead
  obtain ⟨hmem, hbefore, -⟩ := Diff.mem_changedColumns.1 hc
  have hpair := ColumnMatch.counterpart?_eq_some_iff_isLast.1 hbefore
  refine ⟨c, rfl, ⟨hmem, hpair⟩, fun hsame => ?_, ColumnChange.shows_iff⟩
  rw [ColumnChange.definitionChanged_eq_false_iff.2 hsame] at hchanged
  cases hchanged

/-- A column whose length is a text now, and another one. -/
theorem rewrites_show_length :
    let b : Column :=
      ⟨.number 1, "a ", some "a", "VARCHAR", some (.number 9), some "x", true, false, false, false⟩
    let c : Column := { b with name := "a", length := some (.word " 10 ") }
    let steps := (Diff.of ⟨[b], [], [], []⟩ ⟨[c], [], [], []⟩).steps "t"
    .changeColumn "t" b c ∈ steps ∧
      (changeHead "t").toList <+: (Statement.changeColumn "t" b c).text.toList ∧
      (⟨b, c⟩ : ColumnChange).Shows ∧ trimmed b.name = trimmed c.name ∧ ¬b.WrittenLike c := by
  intro b c steps
  have hmem : .changeColumn "t" b c ∈ steps := by decide +kernel
  have hhead : (changeHead "t").toList <+: (Statement.changeColumn "t" b c).text.toList := by
    decide +kernel
  have hshows : (⟨b, c⟩ : ColumnChange).Shows := by decide +kernel
  have hname : trimmed b.name = trimmed c.name := by decide
  obtain ⟨d, hd, -, -, hiff⟩ := (rewrites_show "shop" "t" _ _).2 _ hmem hhead
  obtain ⟨-, hbefore, hafter⟩ := Statement.changeColumn.inj hd
  rw [ColumnChange.Shows, ← hbefore, ← hafter] at hiff
  exact ⟨hmem, hhead, hshows, hname, fun hlike => hiff.1 hshows ⟨hname, hlike⟩⟩

/-- Five columns that are rewritten as they are: blanks around a name and around a type, a length beside
the parentheses of a type, and a length and a `NOT` that go into the type. -/
theorem rewrites_show_nothing :
    let column (id : Int) (type : String) (length : Option Mark) (nullable : Bool) : Column :=
      ⟨.number id, "a", some "a", type, length, none, nullable, false, false, false⟩
    let changes : List ColumnChange :=
      [⟨column 1 "INT" none true, { column 1 "INT" none true with name := " a" }⟩,
        ⟨column 2 "INT" none true, column 2 "INT " none true⟩,
        ⟨column 3 "DECIMAL(9,2)" none true, column 3 "DECIMAL(9,2)" (some (.number 9)) true⟩,
        ⟨column 4 "CHAR" (some (.number 9)) true, column 4 "CHAR(9)" none true⟩,
        ⟨column 5 "INT" none false, column 5 "INT NOT" none true⟩]
    (Diff.of ⟨changes.map (·.before), [], [], []⟩ ⟨changes.map (·.after), [], [], []⟩).steps "t" =
        changes.map (fun c => .changeColumn "t" c.before c.after) ∧
      ∀ c ∈ changes, ¬c.Shows := by
  decide +kernel

/-- Where the default is written as it was, a column whose statement to add it would read otherwise is
rewritten. -/
theorem changeColumn_mem_statements (database table : String) (hids : snapshot.columnIds.Nodup)
    (hb : b ∈ snapshot.columns) (hc : c ∈ working.columns) (hid : b.id = c.id)
    (hdefault : defaultLiteral? b.defaultValue b.nullable = defaultLiteral? c.defaultValue c.nullable)
    (htext : (Statement.addColumn table b).text ≠ (Statement.addColumn table c).text) :
    (Statement.changeColumn table b c).text ∈
      (compile database table snapshot working).statements := by
  let change : ColumnChange := ⟨b, c⟩
  have hchanged : change.definitionChanged = true := by
    rw [← Bool.not_eq_false, ColumnChange.definitionChanged_eq_false_iff]
    rintro ⟨hname, htype, hlength, hnull, hincrement⟩
    refine htext ?_
    have hwritten : columnDefinition b = columnDefinition c :=
      columnDefinition_congr (columnType_eq_iff.2 (.ofLength (congrArg trimmed htype) hlength)) hnull
        hdefault hincrement
    unfold Statement.text Statement.draftText
    dsimp only
    rw [hname, hwritten]
  have hmem : change ∈ (Diff.of snapshot working).changedColumns :=
    Diff.mem_changedColumns.2 ⟨hc, (ColumnMatch.counterpart?_eq_some_iff hids).2 ⟨hb, hid⟩,
      by rw [ColumnChange.differs, hchanged, Bool.true_or]⟩
  exact List.mem_map_of_mem (Diff.mem_steps.2 (.changeColumn hmem hchanged))

/-- A column that may be null no longer, with a default that is left out then, and a length with blanks
around it. -/
theorem changeColumn_mem_statements_null :
    let a : Column :=
      ⟨.number 1, "a", some "a", "SET('x')", some (.number 9), none, true, false, false, false⟩
    let b : Column := { a with id := .word "1", dataType := "CHAR", length := some (.word "9\t") }
    let c : Column := { b with nullable := false, defaultValue := some "null" }
    let snapshot : Definition := ⟨[a, b], [], [], []⟩
    let working : Definition := ⟨[c, a], [], [], []⟩
    (Statement.addColumn "t" b).text ≠ (Statement.addColumn "t" c).text ∧
      (Statement.changeColumn "t" b c).text ∈ (compile "shop" "t" snapshot working).statements := by
  intro a b c snapshot working
  have htext : (Statement.addColumn "t" b).text ≠ (Statement.addColumn "t" c).text := by
    decide +kernel
  have hids : snapshot.columnIds.Nodup := by decide
  have hb : b ∈ snapshot.columns := List.mem_cons_of_mem a List.mem_cons_self
  exact ⟨htext, changeColumn_mem_statements "shop" "t" hids hb List.mem_cons_self rfl (by decide) htext⟩

end Plan

end TableDraft
