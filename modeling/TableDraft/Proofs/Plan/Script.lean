import TableDraft.Proofs.Diff.Members
import TableDraft.Proofs.Plan.Steps
import TableDraft.Proofs.Rollout.Traffic
import TableDraft.Proofs.Statement.Unbroken

namespace TableDraft
open TableDraft.Sql TableDraft.Text TableDraft.Script

/-- The names and values of a definition that statements are made of. -/
def Definition.texts (d : Definition) : List String :=
  d.columns.flatMap Column.texts ++ d.indexes.flatMap Index.texts ++
    d.foreignKeys.flatMap ForeignKey.texts ++ d.triggers.map Trigger.name

namespace Definition

theorem columnTexts_subset {d : Definition} {c : Column} (h : c ∈ d.columns) :
    c.texts ⊆ d.texts := by
  intro x hx
  simp only [texts, List.mem_append, List.mem_flatMap]
  exact .inl (.inl (.inl ⟨c, h, hx⟩))

theorem indexTexts_subset {d : Definition} {i : Index} (h : i ∈ d.indexes) :
    i.texts ⊆ d.texts := by
  intro x hx
  simp only [texts, List.mem_append, List.mem_flatMap]
  exact .inl (.inl (.inr ⟨i, h, hx⟩))

theorem foreignKeyTexts_subset {d : Definition} {k : ForeignKey} (h : k ∈ d.foreignKeys) :
    k.texts ⊆ d.texts := by
  intro x hx
  simp only [texts, List.mem_append, List.mem_flatMap]
  exact .inl (.inr ⟨k, h, hx⟩)

theorem triggerName_mem {d : Definition} {g : Trigger} (h : g ∈ d.triggers) :
    g.name ∈ d.texts := by
  simp only [texts, List.mem_append, List.mem_map]
  exact .inr ⟨g, h, rfl⟩

end Definition

namespace Diff

variable {table : String} {snapshot working : Definition}

/-- Every text in a statement is one of a definition, or the name of the table. -/
theorem texts_subset {s : Statement} (hs : s ∈ (of snapshot working).steps table) :
    ∀ x ∈ s.texts, x ∈ table :: (snapshot.texts ++ working.texts) := by
  have hsnapshot : snapshot.texts ⊆ table :: (snapshot.texts ++ working.texts) := by
    intro x hx
    simp [hx]
  have hworking : working.texts ⊆ table :: (snapshot.texts ++ working.texts) := by
    intro x hx
    simp [hx]
  have htable : table ∈ table :: (snapshot.texts ++ working.texts) := List.mem_cons_self
  change s.texts ⊆ _
  cases mem_steps.1 hs with
  | addColumn h =>
    have := Definition.columnTexts_subset (mem_addedColumns.1 h).1
    exact List.cons_subset.2 ⟨htable, List.Subset.trans this hworking⟩
  | changeColumn h =>
    have hbefore := Definition.columnTexts_subset (sides_of_changed h).1
    have hafter := Definition.columnTexts_subset (sides_of_changed h).2.1
    exact List.cons_subset.2 ⟨htable,
      List.append_subset.2
      ⟨List.Subset.trans hbefore hsnapshot, List.Subset.trans hafter hworking⟩⟩
  | addUnique h =>
    have := Definition.columnTexts_subset (sides_of_changed h).2.1
    exact List.cons_subset.2 ⟨htable, List.Subset.trans this hworking⟩
  | dropUnique h =>
    have := Definition.columnTexts_subset (sides_of_changed h).1
    exact List.cons_subset.2 ⟨htable, List.Subset.trans this hsnapshot⟩
  | dropColumn h =>
    have := Definition.columnTexts_subset (mem_removedColumns.1 h).1
    exact List.cons_subset.2 ⟨htable, List.Subset.trans this hsnapshot⟩
  | createIndex h =>
    have := Definition.indexTexts_subset (NameMatch.mem_added.1 h).1
    exact List.cons_subset.2 ⟨htable, List.Subset.trans this hworking⟩
  | dropIndex h =>
    have := Definition.indexTexts_subset (NameMatch.mem_removed.1 h).1
    exact List.cons_subset.2 ⟨htable, List.Subset.trans this hsnapshot⟩
  | addForeignKey h =>
    have := Definition.foreignKeyTexts_subset (NameMatch.mem_added.1 h).1
    exact List.cons_subset.2 ⟨htable, List.Subset.trans this hworking⟩
  | dropForeignKey h =>
    have := Definition.foreignKeyTexts_subset (NameMatch.mem_removed.1 h).1
    exact List.cons_subset.2 ⟨htable, List.Subset.trans this hsnapshot⟩
  | createTrigger h =>
    have := hworking (Definition.triggerName_mem (NameMatch.mem_added.1 h).1)
    exact List.cons_subset.2 ⟨htable, by simpa using this⟩
  | dropTrigger h =>
    have := hsnapshot (Definition.triggerName_mem (NameMatch.mem_removed.1 h).1)
    simpa [Statement.texts] using this

theorem writesPlainly_of_mem_steps (htriggers : (of snapshot working).triggers.added = [])
    (hplain : ∀ c ∈ working.columns, c.WritesPlainly) {s : Statement}
    (hs : s ∈ (of snapshot working).steps table) : s.WritesPlainly := by
  cases mem_steps.1 hs with
  | addColumn h => exact hplain _ (mem_addedColumns.1 h).1
  | changeColumn h => exact hplain _ (sides_of_changed h).2.1
  | createTrigger h =>
    rw [htriggers] at h
    cases h
  | _ => trivial

/-- A note names a source column of the snapshot, and nothing else from the table. -/
theorem unbroken_note (h : ∀ c ∈ snapshot.columns, Unbroken c.sourceName.toList) {n : String}
    (hn : n ∈ (of snapshot working).notes) : Unbroken n.toList := by
  obtain ⟨c, hc, hn⟩ := List.mem_filterMap.1 hn
  have hsource := h c.before (sides_of_changed hc).1
  unfold ColumnChange.note? at hn
  split at hn
  · cases hn
    simp only [String.toList_append, unbroken_append]
    refine ⟨⟨⟨⟨?_, hsource⟩, ?_⟩, Statement.unbroken_uniqueIndexName hsource⟩, ?_⟩
    all_goals decide
  · cases hn

end Diff

namespace Plan

variable {database table : String} {snapshot working : Definition}

/-- The comment lines at the head of a script. -/
def comments (p : Plan) : List String :=
  ("-- Schema Change Plan for " ++ p.database ++ "." ++ p.table) :: p.notes.map ("-- NOTE: " ++ ·)

theorem script_of_changes {p : Plan} (h : p.statements ≠ []) :
    p.script = String.intercalate "\n" (p.comments ++ p.statements) := by
  have hc : p.hasChanges = true := by
    simpa [hasChanges] using h
  rw [script, if_pos hc]
  rfl

theorem comments_toList (p : Plan) : ∀ l ∈ p.comments, ∃ r, l.toList = "--".toList ++ r := by
  intro l hl
  rcases List.mem_cons.1 hl with rfl | hl
  · exact ⟨(" Schema Change Plan for " ++ p.database ++ "." ++ p.table).toList,
      by simp only [String.toList_append]; rfl⟩
  · obtain ⟨n, -, rfl⟩ := List.mem_map.1 hl
    exact ⟨(" NOTE: " ++ n).toList, by simp only [String.toList_append]; rfl⟩

theorem split_noChanges : Script.split noChanges = [] := by
  have hbody : body noChanges.toList = [] := by
    decide
  rw [Script.split, hbody, statementsOf_nil, List.map_nil]

/-- The comments name the database, the table and source columns of the snapshot. -/
theorem unbroken_comments_of_names
    (h : ∀ x ∈ database :: table :: snapshot.columns.map Column.sourceName, Unbroken x.toList) :
    ∀ l ∈ (compile database table snapshot working).comments, Unbroken l.toList := by
  intro l hl
  rcases List.mem_cons.1 hl with rfl | hl
  · simp only [String.toList_append, unbroken_append]
    refine ⟨⟨⟨?_, h _ (by simp [compile])⟩, ?_⟩, h _ (by simp [compile])⟩
    all_goals decide
  · obtain ⟨n, hn, rfl⟩ := List.mem_map.1 hl
    have hsource : ∀ c ∈ snapshot.columns, Unbroken c.sourceName.toList := fun c hc =>
      h _ (by simp only [List.mem_cons, List.mem_map]; exact .inr (.inr ⟨c, hc, rfl⟩))
    rw [String.toList_append, unbroken_append]
    exact ⟨by decide, Diff.unbroken_note hsource hn⟩

theorem unbroken_comments
    (h : ∀ x ∈ database :: table :: (snapshot.texts ++ working.texts), Unbroken x.toList) :
    ∀ l ∈ (compile database table snapshot working).comments, Unbroken l.toList := by
  refine unbroken_comments_of_names fun x hx => h x ?_
  simp only [List.mem_cons, List.mem_map, List.mem_append] at hx ⊢
  rcases hx with hx | hx | ⟨c, hc, rfl⟩
  · exact .inl hx
  · exact .inr (.inl hx)
  · exact .inr (.inr (.inl (Definition.columnTexts_subset hc c.sourceName_mem_texts)))

/-- A script of comments and of statements that are written plainly splits into the statements. -/
theorem split_intercalate {comments : List String} {steps : List Statement}
    (hc : ∀ l ∈ comments, Unbroken l.toList ∧ ∃ r, l.toList = "--".toList ++ r)
    (hs : ∀ s ∈ steps, s.WritesPlainly ∧ Unbroken s.draftText.toList) :
    Script.split (String.intercalate "\n" (comments ++ steps.map Statement.text)) =
      steps.map Statement.draftText := by
  have htexts : (steps.map Statement.text).map String.toList =
      (steps.map fun s => s.draftText.toList).map (· ++ [';']) := by
    rw [List.map_map, List.map_map]
    refine List.map_congr_left fun s hmem => ?_
    simp only [Function.comp_apply, Statement.text_eq (hs s hmem).1, String.toList_append]
    rfl
  have hcomments : ∀ l ∈ comments.map String.toList,
      Unbroken l ∧ l ≠ [] ∧ isComment l = true := by
    intro l hl
    obtain ⟨c, hmem, rfl⟩ := List.mem_map.1 hl
    obtain ⟨hline, r, hr⟩ := hc c hmem
    rw [hr] at hline ⊢
    exact ⟨hline, List.append_ne_nil_of_left_ne_nil (by decide) r, isComment_dashes r⟩
  have hothers : ∀ l ∈ (steps.map fun s => s.draftText.toList).map (· ++ [';']),
      Unbroken l ∧ l ≠ [] ∧ isComment l = false := by
    intro l hl
    obtain ⟨t, ht, rfl⟩ := List.mem_map.1 hl
    obtain ⟨s, hmem, rfl⟩ := List.mem_map.1 ht
    obtain ⟨hplain, hline⟩ := hs s hmem
    obtain ⟨hne, hhead⟩ := Statement.head?_draftText hplain
    have hstart : (s.draftText.toList ++ [';']).head? = s.draftText.toList.head? :=
      List.head?_append_of_ne_nil _ hne
    have htrim : Trimmed (s.draftText.toList ++ [';']) :=
      trimmed_terminated hne fun c hc => (hhead c hc).1
    refine ⟨unbroken_append.2 ⟨hline, by decide⟩, by simp, ?_⟩
    exact isComment_of_trimmed htrim fun c hc => (hhead c (hstart ▸ hc)).2
  have hclosed : ∀ l ∈ steps.map fun s => s.draftText.toList, Closed l ∧ Trimmed l ∧ l ≠ [] := by
    intro l hl
    obtain ⟨s, hmem, rfl⟩ := List.mem_map.1 hl
    have hplain := (hs s hmem).1
    exact ⟨(Statement.whole_draftText hplain).closed, Statement.trimmed_draftText hplain,
      (Statement.head?_draftText hplain).1⟩
  have hnewline : "\n".toList = ['\n'] := rfl
  rw [Script.split, String.toList_intercalate, List.map_append, htexts, hnewline,
    body_intercalate hcomments hothers, statementsOf_intercalate hclosed, List.map_map]
  exact List.map_congr_left fun s _ => String.ofList_toList

/-- The script of a plan that creates no trigger splits into the plan's statements without their
terminators, and pushing it sends what pushing the plan sends. -/
theorem script_agrees (database table : String) (snapshot working : Definition)
    (htriggers : (Diff.of snapshot working).triggers.added = [])
    (hlines : ∀ x ∈ database :: table :: (snapshot.texts ++ working.texts), Unbroken x.toList)
    (hplain : ∀ c ∈ working.columns, c.WritesPlainly) :
    let plan := compile database table snapshot working
    Script.split plan.script = plan.statements.map unterminated ∧
      ∀ (s : Server) (force : Bool) (t : Traffic),
        (Rollout.pushPlan s plan ⟨false, true, false, force⟩ t).2 =
          (Rollout.pushScript s plan.script ⟨false, true, false, force⟩ t).2 := by
  intro plan
  have hsteps : ∀ s ∈ (Diff.of snapshot working).steps table,
      s.WritesPlainly ∧ Unbroken s.draftText.toList := by
    intro s hs
    have hwrites := Diff.writesPlainly_of_mem_steps htriggers hplain hs
    refine ⟨hwrites, Statement.unbroken_draftText hwrites fun x hx => ?_⟩
    exact hlines x (List.mem_cons_of_mem _ (Diff.texts_subset hs x hx))
  have hsent : plan.statements.map unterminated =
      ((Diff.of snapshot working).steps table).map Statement.draftText := by
    show (List.map Statement.text _).map unterminated = _
    rw [List.map_map]
    exact List.map_congr_left fun s hs => Statement.unterminated_text (hsteps s hs).1
  have hsplit : Script.split plan.script = plan.statements.map unterminated := by
    by_cases hnone : plan.statements = []
    · -- without statements the script is a text of its own
      have hscript : plan.script = noChanges := by
        simp [script, hasChanges, hnone]
      rw [hscript, hnone, split_noChanges, List.map_nil]
    · rw [script_of_changes hnone, hsent]
      refine split_intercalate (fun l hl => ?_) hsteps
      exact ⟨unbroken_comments hlines l hl, comments_toList plan l hl⟩
  refine ⟨hsplit, fun s force t => ?_⟩
  -- pushing the script takes terminators off what has none any more
  have hagain : plan.statements.map unterminated =
      (plan.statements.map unterminated).map unterminated := by
    rw [hsent, List.map_map]
    refine List.map_congr_left fun s hs => ?_
    obtain ⟨hwrites, -⟩ := hsteps s hs
    exact (unterminated_eq_self (Statement.trimmed_draftText hwrites)
      (Statement.endsVisibly_draftText hwrites)).symm
  show (Rollout.push s plan.statements _ t).2 = (Rollout.push s (Script.split plan.script) _ t).2
  rw [Rollout.push_traffic, Rollout.push_traffic, hsplit]
  exact Rollout.send_traffic_congr s hagain 0 0 t

theorem script_agrees_odd_names :
    let kept : Column :=
      ⟨.number 1, "it's", some "it's", "int", none, none, true, false, false, true⟩
    let snapshot : Definition := ⟨[kept, { kept with id := .number 2, name := ";" }],
      [⟨"BEGIN", "INDEX", false, ["it's"]⟩], [⟨"`;--", ";", "other", "id"⟩],
      [⟨"END; --", "before", "insert", "x\ny"⟩]⟩
    let working : Definition := ⟨[
      { kept with name := "CASE `x`;", unique := false, defaultValue := some "-- 0" },
      { kept with id := .number 3, name := "\"BEGIN\\", length := some (.word "10") }], [], [], []⟩
    let plan := compile "shop" "t`;--" snapshot working
    Script.split plan.script = plan.statements.map unterminated ∧
      ∀ (s : Server) (force : Bool) (t : Traffic),
        (Rollout.pushPlan s plan ⟨false, true, false, force⟩ t).2 =
          (Rollout.pushScript s plan.script ⟨false, true, false, force⟩ t).2 :=
  script_agrees "shop" "t`;--" _ _ (by decide) (by decide) (by decide)

end Plan

end TableDraft
