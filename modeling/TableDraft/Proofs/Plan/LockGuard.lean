import Mathlib.Data.List.Forall2
import TableDraft.Proofs.Plan.Steps
import TableDraft.Proofs.Statement.LockRisk
import TableDraft.Rollout

namespace TableDraft
open TableDraft.LockRisk

/-- The warnings of some statements are one for each that is not about a trigger, in order. -/
theorem LockRisk.assessAll_texts (l : List Statement) :
    List.Forall₂ (fun (s : Statement) w => w.statement = s.text ∧ s.Risks w.severity)
      (l.filter fun s => !s.isTrigger) (assessAll (l.map Statement.text)) := by
  induction l with
  | nil => exact .nil
  | cons s r ih =>
    rw [List.map_cons, assessAll]
    cases hs : s.isTrigger with
    | true =>
      rw [List.filter_cons_of_neg (by simp [hs]),
        List.filterMap_cons_none (Statement.assess_of_isTrigger hs)]
      exact ih
    | false =>
      obtain ⟨w, hw, hquotes, hrisks⟩ := Statement.assess_of_not_isTrigger hs
      rw [List.filter_cons_of_pos (by simp [hs]), List.filterMap_cons_some hw]
      exact .cons ⟨hquotes, hrisks⟩ ih

namespace Rollout

/-- Refused, a plan leaves the traffic as it is. -/
theorem pushPlan_refused (s : Server) {plan : Plan} (h : plan.highRisk ≠ []) (confirm : Bool)
    (t : Traffic) : pushPlan s plan ⟨false, confirm, true, false⟩ t =
      (.ok { unsent plan.statements with error := some (guardMessage plan.highRisk) }, t) := by
  have hrisk : plan.highRisk.isEmpty = false := List.isEmpty_eq_false_iff.2 h
  rw [pushPlan, hrisk]
  rfl

end Rollout

namespace Plan

variable {database table : String} {snapshot working : Definition}

theorem warnings_eq : (compile database table snapshot working).warnings =
    assessAll (((Diff.of snapshot working).steps table).map Statement.text) := rfl

/-- A statement that changes or drops a column is among those of high risk. -/
theorem highRisk_ne_nil {s : Statement} (hs : s ∈ (Diff.of snapshot working).steps table)
    (hhigh : ∀ r, s.Risks r → r = .high) (htrigger : s.isTrigger = false) :
    (compile database table snapshot working).highRisk ≠ [] := by
  obtain ⟨w, hw, -, hrisks⟩ := Statement.assess_of_not_isTrigger htrigger
  have hmem : w ∈ (compile database table snapshot working).warnings := by
    rw [warnings_eq, assessAll, List.mem_filterMap]
    exact ⟨s.text, List.mem_map_of_mem hs, hw⟩
  refine List.ne_nil_of_mem (List.mem_filter.2 ⟨hmem, ?_⟩)
  exact decide_eq_true (hhigh _ hrisks)

/-- Every statement but those about triggers has its warning, of a risk that fits it. The guard
refuses every plan that drops a column or changes the definition of one, whatever the server would
answer. -/
theorem lockGuard_sound (database table : String) (snapshot working : Definition) :
    let d := Diff.of snapshot working
    let plan := compile database table snapshot working
    plan.statements = (d.steps table).map Statement.text ∧
      List.Forall₂ (fun (s : Statement) w => w.statement = s.text ∧ s.Risks w.severity)
        ((d.steps table).filter fun s => !s.isTrigger) plan.warnings ∧
      ((d.removedColumns ≠ [] ∨ ∃ c ∈ d.changedColumns, c.definitionChanged = true) →
        ∀ (s : Server) (confirm : Bool) (t : Traffic),
          ∃ r, Rollout.pushPlan s plan ⟨false, confirm, true, false⟩ t = (.ok r, t) ∧
            r.success = false ∧ r.executed = 0) := by
  intro d plan
  refine ⟨rfl, assessAll_texts _, fun h s confirm t => ?_⟩
  have hrisk : plan.highRisk ≠ [] := by
    rcases h with hremoved | ⟨c, hc, hdefinition⟩
    · obtain ⟨c, hc⟩ := List.exists_mem_of_ne_nil _ hremoved
      exact highRisk_ne_nil (Diff.mem_steps.2 (.dropColumn hc)) (fun _ h => h) rfl
    · exact highRisk_ne_nil (Diff.mem_steps.2 (.changeColumn hc hdefinition)) (fun _ h => h) rfl
  exact ⟨_, Rollout.pushPlan_refused s hrisk confirm t, rfl, rfl⟩

/-- A column is dropped from a table whose name has blanks of several kinds in it, quotes, words of
other statements, and a letter with a capital of two letters. -/
theorem lockGuard_sound_blanks :
    let kept : Column :=
      ⟨.number 1, "id", some "id", "int", none, none, true, false, false, false⟩
    let snapshot : Definition :=
      ⟨[kept, { kept with id := .number 2, name := "ß\t", originalName := some "ß\t" }], [], [], []⟩
    let working : Definition := ⟨[kept], [], [], []⟩
    let d := Diff.of snapshot working
    let plan := compile "shop" "`\u2028DROP\u00A0 \x1Ftrigger ß;--" snapshot working
    d.removedColumns ≠ [] ∧ ∀ (s : Server) (confirm : Bool) (t : Traffic),
      ∃ r, Rollout.pushPlan s plan ⟨false, confirm, true, false⟩ t = (.ok r, t) ∧
        r.success = false ∧ r.executed = 0 := by
  intro kept snapshot working d plan
  have hremoved : d.removedColumns ≠ [] := by decide
  exact ⟨hremoved, (lockGuard_sound "shop" _ snapshot working).2.2 (.inl hremoved)⟩

end Plan

end TableDraft
