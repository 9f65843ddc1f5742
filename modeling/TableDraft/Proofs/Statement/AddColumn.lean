import TableDraft.Proofs.Script.Cuts
import TableDraft.Proofs.Sql.DefaultScan
import TableDraft.Proofs.Statement.Unbroken

namespace TableDraft
open TableDraft.Sql TableDraft.Text TableDraft.Script

/-- The column with nothing behind its nullability. -/
def Column.bare (c : Column) : Column :=
  { c with originalName := none, defaultValue := none, autoIncrement := false }

namespace Statement

variable {c : Column}

theorem bare_writesPlainly (htype : Plain c.dataType.toList)
    (hlength : ∀ w ∈ c.length.bind Mark.word?, Plain w.toList) : c.bare.WritesPlainly :=
  ⟨htype, hlength, nofun⟩

theorem toList_addColumn (table : String) (c : Column) : (addColumn table c).draftText.toList =
    (addColumn table c.bare).draftText.toList ++ clauses c := by
  have hbare : (columnDefinition c.bare).toList = (columnType c).toList ++ nullability c := by
    rw [toList_columnDefinition]
    exact congrArg ((columnType c).toList ++ ·) (List.append_nil _)
  have hending : (addColumn table c).ending.toList =
      (addColumn table c.bare).ending.toList ++ clauses c := by
    have htext : ∀ d, (addColumn table d).ending.toList = ' ' :: (columnDefinition d).toList :=
      fun d => String.toList_append
    rw [htext, htext, hbare, toList_columnDefinition, List.cons_append, List.append_assoc]
    rfl
  have hopening : (addColumn table c.bare).opening = (addColumn table c).opening := rfl
  have hlinks : (addColumn table c.bare).links = (addColumn table c).links := rfl
  rw [toList_draftText, toList_draftText, hopening, hlinks, hending, List.append_assoc,
    List.append_assoc]

theorem toList_text_dropIndex (table : String) (i : Index) : (dropIndex table i).text.toList =
    (dropIndex table i).draftText.toList ++ [';'] := by
  have hplain : (dropIndex table i).WritesPlainly := trivial
  rw [text_eq hplain, String.toList_append]
  rfl

/-- The columns of an index are not in the statement that drops it. -/
theorem unbroken_dropIndex {table : String} {i : Index}
    (h : Unbroken table.toList ∧ Unbroken i.name.toList) :
    Unbroken (dropIndex table i).text.toList := by
  have htext : (dropIndex table i).draftText = (dropIndex table { i with columns := [] }).draftText :=
    rfl
  have hplain : (dropIndex table { i with columns := [] }).WritesPlainly := trivial
  rw [toList_text_dropIndex, unbroken_append, htext]
  refine ⟨unbroken_draftText hplain ?_, by decide⟩
  simpa [texts, Index.texts] using h

section
variable (htype : Plain c.dataType.toList)
  (hlength : ∀ w ∈ c.length.bind Mark.word?, Plain w.toList) (table : String)
include htype hlength

theorem toList_text_addColumn : (addColumn table c).text.toList =
    (addColumn table c.bare).draftText.toList ++ withoutEnd (clauses c) ++ [';'] := by
  have hplain : (addColumn table c.bare).WritesPlainly := bare_writesPlainly htype hlength
  obtain ⟨hne, hhead⟩ := head?_draftText hplain
  have hvisible := endsVisibly_draftText hplain
  -- the plain part of the statement ends visibly, so a semicolon can be lost from the clauses only
  have htrimmed : Trimmed (addColumn table c).draftText.toList := by
    rw [toList_addColumn]
    refine ⟨fun x hx => ?_, ?_⟩
    · rw [List.head?_append_of_ne_nil _ hne] at hx
      exact (hhead x hx).1
    · have hright : trimRight ((addColumn table c.bare).draftText.toList ++ clauses c) =
          (addColumn table c.bare).draftText.toList ++ clauses c := by
        rw [trimRight_append _ fun x hx => (hvisible x hx).1, trimRight_clauses]
      rw [← hright]
      exact getLast?_trimRight _
  rw [text, toList_terminated htrimmed, toList_addColumn, withoutEnd_append hvisible]

/-- The text of the statement is a line of its own that is no comment, if its names and values are. -/
theorem unbroken_addColumn (hlines : ∀ x ∈ [table, c.name, c.dataType] ++
      (c.length.bind Mark.word?).toList ++ c.defaultValue.toList, Unbroken x.toList) :
    Unbroken (addColumn table c).text.toList := by
  have hplain : (addColumn table c.bare).WritesPlainly := bare_writesPlainly htype hlength
  have hbare : Unbroken (addColumn table c.bare).draftText.toList := by
    have htexts : (addColumn table c.bare).texts =
        [table, c.name, c.dataType] ++ (c.length.bind Mark.word?).toList := by
      simp [texts, Column.texts, Column.bare]
    refine unbroken_draftText hplain fun x hx => hlines x (List.mem_append_left _ ?_)
    rwa [← htexts]
  have hclauses : Unbroken (withoutEnd (clauses c)) := by
    refine (unbroken_clauses fun v hv => ?_).of_isInfix (withoutEnd_isPrefix _).isInfix
    exact hlines v (List.mem_append_right _ (Option.mem_toList.2 hv))
  rw [toList_text_addColumn htype hlength table, unbroken_append, unbroken_append]
  exact ⟨⟨hbare, hclauses⟩, by decide⟩

theorem closed_addColumn_iff :
    Closed ((addColumn table c.bare).draftText.toList ++ withoutEnd (clauses c)) ↔
      Closed (withoutEnd (clauses c)) := by
  have hplain : (addColumn table c.bare).WritesPlainly := bare_writesPlainly htype hlength
  exact closed_append_iff (whole_draftText hplain)
    (atBreak_of_isPrefix (withoutEnd_isPrefix _) (atBreak_clauses c))

theorem split_addColumn_iff (other : String) (i : Index)
    (hlines : ∀ x ∈ [table, c.name, c.dataType] ++ (c.length.bind Mark.word?).toList ++
      c.defaultValue.toList, Unbroken x.toList)
    (hindex : Unbroken other.toList ∧ Unbroken i.name.toList) :
    Script.split ((addColumn table c).text ++ "\n" ++ (dropIndex other i).text) =
        [unterminated (addColumn table c).text, unterminated (dropIndex other i).text] ↔
      Closed (withoutEnd (clauses c)) := by
  obtain ⟨r, hr⟩ : ∃ r, (addColumn table c.bare).draftText.toList ++ withoutEnd (clauses c) =
      'A' :: r := by
    have hopening : (addColumn table c.bare).opening.text =
        "ALTER TABLE ".toList ++ quotedIdent table.toList := rfl
    have hwords : "ALTER TABLE ".toList = 'A' :: "LTER TABLE ".toList := by decide
    rw [toList_draftText, hopening, hwords]
    exact ⟨_, rfl⟩
  have htext := toList_text_addColumn htype hlength table
  have hclosed := closed_addColumn_iff htype hlength table
  rw [hr] at htext hclosed
  have hfirst : unterminated (addColumn table c).text = String.ofList (trim ('A' :: r)) := by
    rw [← toList_unterminated htext (List.cons_ne_nil _ _) fun x hx => by cases hx; decide,
      String.ofList_toList]
  -- the other statement is plain, whatever the names in it
  have hplain : (dropIndex other i).WritesPlainly := trivial
  obtain ⟨hne, hhead⟩ := head?_draftText hplain
  rw [hfirst, unterminated_text hplain, ← hclosed,
    ← String.ofList_toList (s := (dropIndex other i).draftText)]
  exact split_lines_iff htext (by decide) (toList_text_dropIndex other i)
    ⟨(whole_draftText hplain).closed, trimmed_draftText hplain, hne⟩ (fun d hd => (hhead d hd).2)
    ⟨unbroken_addColumn htype hlength table hlines, unbroken_dropIndex hindex⟩

end

/-- A default stays in its statement exactly if the clauses are closed that it makes. They are, unless
the default has a backslash or quotes or parentheses of its own. -/
theorem default_contained (table other : String) (c : Column) (i : Index)
    (htype : Plain c.dataType.toList) (hlength : ∀ w ∈ c.length.bind Mark.word?, Plain w.toList)
    (hlines : ∀ x ∈ [table, c.name, c.dataType] ++ (c.length.bind Mark.word?).toList ++
      c.defaultValue.toList, Unbroken x.toList)
    (hindex : Unbroken other.toList ∧ Unbroken i.name.toList) :
    let contained :=
      Script.split ((addColumn table c).text ++ "\n" ++ (dropIndex other i).text) =
        [unterminated (addColumn table c).text, unterminated (dropIndex other i).text]
    (contained ↔ Closed (withoutEnd (clauses c))) ∧
      ((∀ v ∈ c.defaultValue, bringsMarks (trim v.toList) = false ∧ '\\' ∉ v.toList) →
        contained) := by
  intro contained
  have hiff : contained ↔ Closed (withoutEnd (clauses c)) :=
    split_addColumn_iff htype hlength table other i hlines hindex
  refine ⟨hiff, fun hdefault => hiff.2 ?_⟩
  have hwhole := whole_clauses fun _ hd => (whole_defaultLiteral hdefault hd).1
  have hvisible := endsVisibly_clauses fun _ hd => (whole_defaultLiteral hdefault hd).2
  rw [withoutEnd_eq_self hvisible]
  exact hwhole.closed

theorem default_contained_quote :
    let c : Column :=
      ⟨.number 1, "a", none, "TEXT", none, some "it's; BEGIN", true, false, false, false⟩
    let i : Index := ⟨"i", "INDEX", false, ["a"]⟩
    Script.split ((addColumn "t" c).text ++ "\n" ++ (dropIndex "t" i).text) =
      [unterminated (addColumn "t" c).text, unterminated (dropIndex "t" i).text] :=
  (default_contained "t" "t" _ _ (by decide +kernel) (by decide) (by decide) (by decide)).2
    fun v hv => by cases hv; decide

/-- The backslash of this default takes the quote that should close it, and with it the next
statement. -/
theorem default_contained_backslash :
    let c : Column :=
      ⟨.number 1, "a", none, "TEXT", none, some "C:\\", true, false, false, false⟩
    let i : Index := ⟨"i", "INDEX", false, ["a"]⟩
    unterminated (addColumn "t" c).text = "ALTER TABLE `t` ADD COLUMN `a` TEXT NULL DEFAULT 'C:\\'" ∧
      Script.split ((addColumn "t" c).text ++ "\n" ++ (dropIndex "t" i).text) =
        ["ALTER TABLE `t` ADD COLUMN `a` TEXT NULL DEFAULT 'C:\\';\nDROP INDEX `i` ON `t`;"] := by
  decide +kernel

end Statement

end TableDraft
