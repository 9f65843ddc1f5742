import TableDraft.Proofs.Column.Check
import TableDraft.Proofs.Plan.Steps
import TableDraft.Proofs.Sql.ColumnDefinition

namespace TableDraft
open TableDraft.Sql TableDraft.Text

namespace Column

def addText (table : String) (c : Column) : String :=
  terminated ("ALTER TABLE " ++ ident table ++ " ADD COLUMN " ++ ident c.name ++ " " ++
    columnDefinition c)

def dropText (table : String) (b : Column) : String :=
  terminated ("ALTER TABLE " ++ ident table ++ " DROP COLUMN " ++ ident b.name)

end Column

namespace ColumnChange

def changeText (table : String) (c : ColumnChange) : String :=
  terminated ("ALTER TABLE " ++ ident table ++ " CHANGE COLUMN " ++ ident c.before.name ++ " " ++
    ident c.after.name ++ " " ++ columnDefinition c.after)

/-- All but the uniqueness of a column is changed by one statement. -/
def definitionTexts (table : String) (c : ColumnChange) : List String :=
  if c.before.name = c.after.name ∧ c.before.dataType = c.after.dataType ∧
      lengthsEqual c.before.length c.after.length = true ∧ c.before.nullable = c.after.nullable ∧
      c.before.autoIncrement = c.after.autoIncrement
  then [] else [c.changeText table]

/-- A unique index is created under the new name, and dropped under the one that was loaded. -/
def uniqueTexts (table : String) (c : ColumnChange) : List String :=
  if c.before.unique = c.after.unique then []
  else if c.after.unique then
    [terminated ("CREATE UNIQUE INDEX " ++ ident ("uq_" ++ c.after.name) ++ " ON " ++ ident table ++
      " (" ++ ident c.after.name ++ ")")]
  else
    [terminated ("DROP INDEX " ++ ident ("uq_" ++ c.before.name) ++ " ON " ++ ident table)]

def texts (table : String) (c : ColumnChange) : List String :=
  c.definitionTexts table ++ c.uniqueTexts table

/-- Columns that differ in their names only need one statement, if any. -/
theorem texts_renamed (table : String) (b : Column) (name : String) (original : Option String) :
    let c : ColumnChange := ⟨b, { b with name, originalName := original }⟩
    c.texts table = if name = b.name then [] else [c.changeText table] := by
  intro c
  have hlength : lengthsEqual b.length b.length = true := beq_self_eq_true _
  have hunique : c.before.unique = c.after.unique := rfl
  rw [texts, uniqueTexts, if_pos hunique, List.append_nil, definitionTexts]
  exact if_congr ⟨fun h => h.1.symm, fun h => ⟨h.symm, rfl, hlength, rfl, rfl⟩⟩ rfl rfl

/-- A change states the whole definition of the changed column. -/
theorem columnDefinition_isInfix_changeText (table : String) (c : ColumnChange) :
    (columnDefinition c.after).toList <:+: (c.changeText table).toList := by
  have hlast : ∀ x ∈ (columnDefinition c.after).toList.getLast?, isBlank x = false := by
    rw [← trimRight_columnDefinition]
    exact getLast?_trimRight _
  have hne : (columnDefinition c.after).toList ≠ [] := by
    rw [toList_columnDefinition]
    unfold nullability
    split <;> simp
  have htrimmed : Trimmed ("ALTER TABLE " ++ ident table ++ " CHANGE COLUMN " ++
      ident c.before.name ++ " " ++ ident c.after.name ++ " " ++
      columnDefinition c.after).toList := by
    rw [String.toList_append]
    refine trimmed_append (by simp) hne (fun x hx => ?_) hlast
    simp only [String.toList_append, List.append_assoc] at hx
    cases hx
    rfl
  refine List.IsInfix.trans ?_ (isPrefix_terminated htrimmed).isInfix
  rw [String.toList_append]
  exact (List.suffix_append _ _).isInfix

theorem text_changeColumn {c : ColumnChange} (h : c.before.sourceName = c.before.name)
    (table : String) :
    (Statement.changeColumn table c.before c.after).text = c.changeText table := by
  unfold Statement.text Statement.draftText changeText
  dsimp only
  rw [h]

theorem definitionTexts_eq {c : ColumnChange} (h : c.before.sourceName = c.before.name)
    (table : String) :
    (if c.definitionChanged then [Statement.changeColumn table c.before c.after] else []).map
      Statement.text = c.definitionTexts table := by
  rw [definitionTexts, ← if_congr definitionChanged_eq_false_iff rfl rfl]
  cases c.definitionChanged with
  | false => rfl
  | true => exact congrArg (fun text => [text]) (text_changeColumn h table)

theorem uniqueTexts_eq {c : ColumnChange} (h : c.before.sourceName = c.before.name)
    (table : String) :
    (if c.uniqueChanged then
      [if c.after.unique then Statement.addUnique table c.after
        else .dropUnique table c.before] else []).map Statement.text = c.uniqueTexts table := by
  have hdrop : (Statement.dropUnique table c.before).text =
      terminated ("DROP INDEX " ++ ident ("uq_" ++ c.before.name) ++ " ON " ++ ident table) := by
    unfold Statement.text Statement.draftText uniqueIndexName
    dsimp only
    rw [h]
  rw [uniqueTexts, uniqueChanged, ← hdrop]
  cases c.before.unique <;> cases c.after.unique <;> rfl

theorem map_text_steps {c : ColumnChange} (h : c.before.sourceName = c.before.name)
    (table : String) :
    (c.steps table).map Statement.text = c.texts table := by
  rw [steps, List.map_append, definitionTexts_eq h, uniqueTexts_eq h, texts]

end ColumnChange

/-- The columns that are in both definitions, each as it was and as it is, in their present order. -/
def Definition.kept (opened working : Definition) : List ColumnChange :=
  working.columns.filterMap fun c => (opened.columns.find? (·.id = c.id)).map (⟨·, c⟩)

namespace Definition
open ColumnMatch

variable {opened working : Definition}

theorem mem_kept {c : ColumnChange} (h : c ∈ opened.kept working) :
    c.before ∈ opened.columns ∧ c.after ∈ working.columns ∧ c.before.id = c.after.id := by
  obtain ⟨w, hw, hc⟩ := List.mem_filterMap.1 h
  obtain ⟨b, hb, rfl⟩ := Option.map_eq_some_iff.1 hc
  exact ⟨List.mem_of_find?_eq_some hb, hw, by simpa using List.find?_some hb⟩

/-- Where ids are distinct it does not matter which way a column is looked up by its id. -/
theorem kept_eq_matched (hids : opened.columnIds.Nodup) :
    opened.kept working =
      (ColumnMatch.of opened.columns working.columns).matched.map fun p => ⟨p.1, p.2⟩ := by
  rw [kept, ColumnMatch.of, List.map_filterMap]
  refine List.filterMap_congr fun w _ => ?_
  have hfind : opened.columns.find? (·.id = w.id) = counterpart? opened.columns w := by
    have hfirst : opened.columns.find? (·.id = w.id) = counterpart? opened.columns.reverse w := by
      rw [counterpart?, List.reverse_reverse]
    have hreverse : (opened.columns.reverse.map Column.id).Nodup := by
      rw [List.map_reverse, List.nodup_reverse]
      exact hids
    refine Option.ext fun b => ?_
    rw [hfirst, counterpart?_eq_some_iff hreverse, counterpart?_eq_some_iff hids, List.mem_reverse]
  rw [hfind, Option.map_map]
  rfl

end Definition

namespace Plan

/-- If only columns differ, the plan adds the new ones, changes what is to be changed of those that
stay and drops the ones that are gone, and does nothing else. -/
theorem statements_of_columns {opened working : Definition} (database table : String)
    (hids : opened.columnIds.Nodup) (hsource : ∀ b ∈ opened.columns, b.sourceName = b.name)
    (hindexes : working.indexes = opened.indexes)
    (hforeignKeys : working.foreignKeys = opened.foreignKeys)
    (htriggers : working.triggers = opened.triggers) :
    (compile database table opened working).statements =
      (working.columns.filter (·.id ∉ opened.columnIds)).map (Column.addText table) ++
        (opened.kept working).flatMap (ColumnChange.texts table) ++
        (opened.columns.filter (·.id ∉ working.columnIds)).map (Column.dropText table) := by
  have hchanged : ((Diff.of opened working).changedColumns.flatMap
      (ColumnChange.steps table)).map Statement.text =
        (opened.kept working).flatMap (ColumnChange.texts table) := by
    have hall : (Diff.of opened working).changedColumns.flatMap (ColumnChange.steps table) =
        (opened.kept working).flatMap (ColumnChange.steps table) := by
      rw [Definition.kept_eq_matched hids]
      exact ColumnChange.flatMap_filter_differs (fun c hd => c.steps_eq_nil hd table) _
    rw [hall, List.map_flatMap]
    refine List.flatMap_congr fun c hc => ?_
    exact ColumnChange.map_text_steps (hsource _ (Definition.mem_kept hc).1) table
  show ((Diff.of opened working).steps table).map Statement.text = _
  simp only [Diff.steps, List.map_append, List.map_map, hchanged]
  rw [Diff.addedColumns_eq, Diff.removedColumns_eq]
  simp only [Diff.of, hindexes, hforeignKeys, htriggers, NameMatch.of_self, List.filterMap_nil,
    List.map_nil, List.append_nil]
  rfl

end Plan

end TableDraft
