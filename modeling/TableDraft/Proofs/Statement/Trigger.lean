import TableDraft.Draft.Apply
import TableDraft.Proofs.Script.Blocks
import TableDraft.Proofs.Script.Relined
import TableDraft.Proofs.Statement.Closed

namespace TableDraft
open TableDraft.Sql TableDraft.Text TableDraft.Script

namespace Statement

variable {table : String} {g : Trigger}

/-- The words of a trigger in front of the name of its table. -/
def triggerWords (timing event : String) : String :=
  " " ++ timing ++ " " ++ event ++ " ON "

/-- What stands in front of the block of a trigger. -/
def triggerHead (table : String) (g : Trigger) : List Char :=
  Lead.text ⟨"CREATE TRIGGER ", g.name⟩ ++
    (Lead.text ⟨triggerWords (uppered g.timing) (uppered g.event), table⟩ ++
      " FOR EACH ROW\n".toList)

theorem toList_createTrigger : (createTrigger table g).draftText.toList =
    triggerHead table g ++
      ("BEGIN".toList ++ (('\n' :: (trim g.body.toList ++ ['\n'])) ++ "END".toList)) := by
  have hwords : " FOR EACH ROW\nBEGIN\n".toList =
      " FOR EACH ROW\n".toList ++ ("BEGIN".toList ++ ['\n']) := by
    decide
  have hend : "\nEND".toList = ['\n'] ++ "END".toList := by
    decide
  have hopening : (createTrigger table g).opening = ⟨"CREATE TRIGGER ", g.name⟩ := rfl
  have hlinks : (createTrigger table g).links =
      [⟨triggerWords (uppered g.timing) (uppered g.event), table⟩] := rfl
  have hending : (createTrigger table g).ending =
      " FOR EACH ROW\nBEGIN\n" ++ trimmed g.body ++ "\nEND" := rfl
  rw [toList_draftText, hopening, hlinks, hending, List.flatMap_singleton, String.toList_append,
    String.toList_append, toList_trimmed, hwords, hend, triggerHead]
  simp only [List.append_assoc, List.cons_append, List.nil_append]

theorem plain_triggerWords : ∀ t ∈ Definition.triggerTimings, ∀ e ∈ Definition.triggerEvents,
    Plain (triggerWords t e).toList ∧ endsInWord (triggerWords t e).toList = false ∧
      (triggerWords t e).toList ≠ [] ∧ atBreak (triggerWords t e).toList = true := by
  decide +kernel

theorem takes_triggerHead (htiming : uppered g.timing ∈ Definition.triggerTimings)
    (hevent : uppered g.event ∈ Definition.triggerEvents) (rest : List Char) :
    Takes 0 (triggerHead table g) 0 rest := by
  have hopening : Plain "CREATE TRIGGER ".toList ∧ endsInWord "CREATE TRIGGER ".toList = false := by
    decide +kernel
  have hrow : Plain " FOR EACH ROW\n".toList ∧ endsInWord " FOR EACH ROW\n".toList = false := by
    decide +kernel
  obtain ⟨hplain, hends, hne, hbreak⟩ := plain_triggerWords _ htiming _ hevent
  have hfirst : Whole (Lead.text ⟨"CREATE TRIGGER ", g.name⟩) := whole_lead hopening
  have hsecond : Whole (Lead.text ⟨triggerWords (uppered g.timing) (uppered g.event), table⟩) :=
    whole_lead ⟨hplain, hends⟩
  refine (hfirst _ ?_).append ((hsecond _ (by rfl)).append (takes_plain hrow.1 (.inl hrow.2)))
  rw [Lead.text, List.append_assoc, List.append_assoc]
  exact (atBreak_append_of_ne_nil _ hne).trans hbreak

theorem closed_createTrigger (hbody : Body g.body.toList [])
    (hopens : trim g.body.toList = [] ∨ startsTransaction (trim g.body.toList) = false)
    (htiming : uppered g.timing ∈ Definition.triggerTimings)
    (hevent : uppered g.event ∈ Definition.triggerEvents) :
    Closed (createTrigger table g).draftText.toList := by
  rw [toList_createTrigger]
  refine closed_of_takes fun rest => (takes_triggerHead htiming hevent _).append ?_
  have hblock : Block "BEGIN".toList "BEGIN".toList ('\n' :: (trim g.body.toList ++ ['\n']))
      "END".toList (';' :: rest) := by
    refine ⟨⟨by decide, by decide, by rfl⟩, fun _ => ?_,
      .alone (by decide) ⟨by decide, by decide, by rfl⟩ (closesAlone_of_head? ?_)⟩
    · rw [List.cons_append, startsTransaction_cons _ (by decide), List.append_assoc]
      rcases hopens with hnil | hvisible
      · rw [hnil]
        decide
      · exact startsTransaction_append hvisible (by rfl)
    · rintro c hc
      cases hc
      decide
  exact hblock.takes (by decide) (hbody.takes_lines (by decide) (by rfl))

theorem exists_createTrigger : ∃ u, (createTrigger table g).draftText.toList =
    "CREATE TRIGGER ".toList ++ (u ++ "END".toList) := by
  have hassoc : ∀ p q r s t e : List Char,
      (p ++ q ++ r) ++ (s ++ (t ++ e)) = p ++ ((q ++ r ++ (s ++ t)) ++ e) := by
    simp
  rw [toList_createTrigger]
  exact ⟨_, hassoc _ _ _ _ _ _⟩

theorem head?_createTrigger : (createTrigger table g).draftText.toList.head? = some 'C' := by
  obtain ⟨u, hu⟩ : ∃ u, (createTrigger table g).draftText.toList =
      "CREATE TRIGGER ".toList ++ (u ++ "END".toList) := exists_createTrigger
  have hne : "CREATE TRIGGER ".toList ≠ [] := List.cons_ne_nil _ _
  rw [hu, List.head?_append_of_ne_nil _ hne]
  decide

theorem trimmed_createTrigger : (createTrigger table g).draftText.toList ≠ [] ∧
    Trimmed (createTrigger table g).draftText.toList ∧
    EndsVisibly (createTrigger table g).draftText.toList := by
  have hfirst : (createTrigger table g).draftText.toList.head? = some 'C' := head?_createTrigger
  obtain ⟨u, hu⟩ : ∃ u, (createTrigger table g).draftText.toList =
      "CREATE TRIGGER ".toList ++ (u ++ "END".toList) := exists_createTrigger
  have hends : EndsVisibly (createTrigger table g).draftText.toList := by
    rw [hu, ← List.append_assoc]
    exact EndsVisibly.behind _ (by decide) (List.cons_ne_nil _ _)
  refine ⟨fun hnil => ?_, ⟨fun c hc => ?_, fun c hc => (hends c hc).1⟩, hends⟩
  · rw [hnil] at hfirst
    cases hfirst
  · rw [hfirst] at hc
    cases hc
    decide

/-- A trigger whose body is made of quoted texts, words, blocks and other characters is one statement
of its script. The body must not look to the scan as if its `BEGIN` started a transaction. -/
theorem split_createTrigger (table : String) (g : Trigger) (hbody : Body g.body.toList [])
    (hopens : trim g.body.toList = [] ∨ startsTransaction (trim g.body.toList) = false)
    (htiming : uppered g.timing ∈ Definition.triggerTimings)
    (hevent : uppered g.event ∈ Definition.triggerEvents)
    (hcomment : ∀ l ∈ lines (createTrigger table g).text.toList, isComment l = false) :
    let s := createTrigger table g
    s.text = s.draftText ++ ";" ∧
    split s.text = [String.ofList (relined s.draftText.toList)] ∧
    (∀ rest, split (s.text ++ "\n" ++ rest) =
      String.ofList (relined s.draftText.toList) :: split rest) ∧
    ((∀ c ∈ s.draftText.toList, isLineBreak c = true → c = '\n') →
      String.ofList (relined s.draftText.toList) = s.draftText) := by
  intro s
  have hclosed : Closed s.draftText.toList := closed_createTrigger hbody hopens htiming hevent
  obtain ⟨hne, htrimmed, hends⟩ : s.draftText.toList ≠ [] ∧ Trimmed s.draftText.toList ∧
      EndsVisibly s.draftText.toList := trimmed_createTrigger
  have htext : s.text = s.draftText ++ ";" := terminated_eq htrimmed hends
  rw [htext] at hcomment ⊢
  obtain ⟨halone, hscript⟩ := split_closed hclosed htrimmed hne hcomment
  refine ⟨rfl, halone, hscript, fun h => ?_⟩
  rw [relined_eq_self h, String.ofList_toList]

/-- A trigger with a block in a block, and semicolons in both and in a quoted text. -/
def nestedTrigger : Trigger :=
  ⟨"keep", "before", "insert", "IF a THEN\nCASE ';' END;\nEND IF;"⟩

theorem split_createTrigger_nested :
    split (createTrigger "t" nestedTrigger).text =
      [(createTrigger "t" nestedTrigger).draftText] := by
  have hcase : Body " ';' ".toList ("END".toList ++ (";\n".toList ++ "END IF;".toList)) :=
    .mark (by decide) (by decide) <|
      .literal (s := ";'".toList) (by decide) (.plain (by decide) (by decide) .quote)
        (ne_quote_of_atBreak (by decide) (by decide)) <|
        .mark (by decide) (by decide) .done
  have hinside : Body (" a THEN\nCASE ';' END;\n".toList) ("END IF;".toList) :=
    .mark (by decide) (by decide) <|
      .word (w := "a".toList) (by decide) (by decide) (by decide) <|
      .mark (by decide) (by decide) <|
      .word (w := "THEN".toList) (by decide) (by decide) (by decide) <|
      .mark (by decide) (by decide) <|
      .block (k := "CASE".toList) (o := "CASE".toList) (s := " ';' ".toList) (z := "END".toList)
        (t := ";\n".toList) ⟨⟨by decide, by decide, by decide⟩, by decide,
          .alone (by decide) ⟨by decide, by decide, by decide⟩ (by decide)⟩ hcase <|
        .mark (by decide) (by decide) <| .mark (by decide) (by decide) .done
  have hends : Ends "IF".toList ("END".toList ++ (" ".toList ++ "IF".toList)) (";".toList ++ []) :=
    .named (by decide) ⟨by decide, by decide, by decide⟩
      ⟨by decide, List.all_eq_true.1 (by decide), by decide, List.all_eq_true.1 (by decide),
        by decide⟩ (by decide)
  have hbody : Body nestedTrigger.body.toList [] :=
    .block (k := "IF".toList) (o := "IF".toList) (s := " a THEN\nCASE ';' END;\n".toList)
      (t := ";".toList) ⟨⟨by decide, by decide, by decide⟩, by decide, hends⟩ hinside <|
      .mark (by decide) (by decide) .done
  have hcomment : ((lines (createTrigger "t" nestedTrigger).text.toList).all
      fun l => !isComment l) = true := by
    decide +kernel
  have hfeeds : ((createTrigger "t" nestedTrigger).draftText.toList.all
      fun c => !isLineBreak c || c == '\n') = true := by
    decide +kernel
  obtain ⟨-, hsplit, -, hself⟩ := split_createTrigger "t" nestedTrigger hbody (.inr (by decide))
    (by decide +kernel) (by decide +kernel) (by simpa using hcomment)
  rw [hsplit, hself fun c hc hbreak => ?_]
  have := List.all_eq_true.1 hfeeds c hc
  simpa [hbreak] using this

end Statement

end TableDraft
