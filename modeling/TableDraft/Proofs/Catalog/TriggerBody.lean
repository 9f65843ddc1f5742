import TableDraft.Proofs.Catalog.Established
import TableDraft.Proofs.Sql.Block
import TableDraft.Proofs.Statement.Trigger

namespace TableDraft
open TableDraft.Sql TableDraft.Text

/-- A row is read as the trigger that its cells tell of. -/
theorem Catalog.triggerOfRow_of_readFrom {row : Fields} {g : Trigger} (h : TriggerReadFrom row g) :
    triggerOfRow (.object row) = .ok g := by
  obtain ⟨hname, htiming, hevent, s, hs, hbody⟩ := h
  have hcell : ∀ {name : String} {v : Value}, row.get? name = some v → cell row name = .ok v := by
    intro name v hv
    rw [cell, hv]
  unfold triggerOfRow
  rw [bind_eq_ok]
  refine ⟨row, rfl, bind_eq_ok.2 ⟨_, hcell hname, bind_eq_ok.2 ⟨_, hcell htiming,
    bind_eq_ok.2 ⟨_, hcell hevent, ?_⟩⟩⟩⟩
  dsimp only
  rw [hs]
  refine bind_eq_ok.2 ⟨s, rfl, Checked.orFail_eq_ok.2 (Trigger.checkFields_eq_good.2 ?_)⟩
  refine ⟨rfl, rfl, rfl, ?_⟩
  rw [Fields.orElse_of_some rfl, checkText_eq_good, hbody]

namespace Trigger

/-- What a server keeps of the statement that creates the trigger. -/
def action (g : Trigger) : String :=
  "BEGIN\n" ++ trimmed g.body ++ "\nEND"

/-- The row in which a server lists the trigger after it was created there. -/
def row (g : Trigger) : Value :=
  .object [("name", .text (trimmed g.name)), ("timing", .text (uppered g.timing)),
    ("event", .text (uppered g.event)), ("statement", .text g.action)]

/-- The trigger after several rounds, in each of which it is created on a server and read again. -/
def rounds : Nat → Trigger → Except Failure Trigger
  | 0, g => .ok g
  | n + 1, g => Catalog.triggerOfRow g.row >>= rounds n

theorem unwrapBlock_action (g : Trigger) : unwrapBlock g.action = trimmed g.body := by
  have haction : g.action.toList =
      "BEGIN".toList ++ (('\n' :: (trim g.body.toList ++ ['\n'])) ++ "END".toList) := by
    have hbegin : "BEGIN\n".toList = "BEGIN".toList ++ ['\n'] := by decide
    have hend : "\nEND".toList = ['\n'] ++ "END".toList := by decide
    rw [action, String.toList_append, String.toList_append, toList_trimmed, hbegin, hend]
    simp only [List.append_assoc, List.cons_append, List.nil_append]
  have hlast : ∀ c ∈ ('\n' :: (trim g.body.toList ++ ['\n'])).getLast?, isWordChar c = false := by
    intro c hc
    rw [← List.cons_append, List.getLast?_concat, Option.mem_some_iff] at hc
    exact hc ▸ isWordChar_of_isBlank (by decide)
  have hstart : isWordChar '\n' = false := isWordChar_of_isBlank (by decide)
  rw [unwrapBlock, haction, unwrapped_block (List.cons_ne_nil _ _) (by simp [atWordEnd, hstart]) hlast,
    trim_cons_blank _ (by decide), trim_concat_blank _ (by decide), trim_trim]
  rfl

theorem text_createTrigger (table : String) (g : Trigger) :
    (Statement.createTrigger table g).text =
      "CREATE TRIGGER " ++ ident g.name ++ " " ++ uppered g.timing ++ " " ++ uppered g.event ++
        " ON " ++ ident table ++ " FOR EACH ROW\n" ++ g.action ++ ";" := by
  obtain ⟨-, htrimmed, hends⟩ :
      (Statement.createTrigger table g).draftText.toList ≠ [] ∧
        Trimmed (Statement.createTrigger table g).draftText.toList ∧
        EndsVisibly (Statement.createTrigger table g).draftText.toList :=
    Statement.trimmed_createTrigger
  have hblock : " FOR EACH ROW\nBEGIN\n" = " FOR EACH ROW\n" ++ "BEGIN\n" := by decide
  have hdraft : (Statement.createTrigger table g).draftText =
      "CREATE TRIGGER " ++ ident g.name ++ " " ++ uppered g.timing ++ " " ++ uppered g.event ++
        " ON " ++ ident table ++ " FOR EACH ROW\nBEGIN\n" ++ trimmed g.body ++ "\nEND" := rfl
  rw [Statement.text, terminated_eq htrimmed hends, hdraft, hblock, action]
  simp only [String.append_assoc]

/-- Whatever it holds, the row is read. -/
theorem triggerOfRow_row (g : Trigger) : Catalog.triggerOfRow g.row =
    .ok ⟨trimmed g.name, uppered g.timing, uppered g.event, trimmed g.body⟩ := by
  refine Catalog.triggerOfRow_of_readFrom ⟨rfl, rfl, rfl, g.action, ?_, ?_⟩
  · have hne : (Value.text g.action).isTruthy = true := by
      rw [Value.isTruthy_text]
      intro hempty
      have hlist := congrArg String.toList hempty
      simp [action] at hlist
    exact if_pos hne
  · exact (unwrapBlock_action g).symm

theorem trimmed_unwrapBlock (s : String) : trimmed (unwrapBlock s) = unwrapBlock s := by
  rw [← String.toList_inj, toList_trimmed, unwrapBlock, String.toList_ofList, trim_unwrapped]

theorem rounds_succ (g : Trigger) (n : Nat) : rounds (n + 1) g =
    rounds n ⟨trimmed g.name, uppered g.timing, uppered g.event, trimmed g.body⟩ := by
  rw [rounds, triggerOfRow_row]
  rfl

theorem body_rounds {g : Trigger} (h : trimmed g.body = g.body) (n : Nat) :
    ∃ g', rounds n g = .ok g' ∧ g'.body = g.body := by
  induction n generalizing g with
  | zero => exact ⟨g, rfl, rfl⟩
  | succ n ih =>
    rw [rounds_succ, h]
    exact ih h

/-- The block that a statement puts around a body is the one that is taken off again, so a body comes
back as it was but for the blanks around it, from one round and from any number. A body that was read
from a server has no such blanks and comes back unchanged. -/
theorem body_returns (table : String) (g : Trigger) :
    (Statement.createTrigger table g).text =
      "CREATE TRIGGER " ++ ident g.name ++ " " ++ uppered g.timing ++ " " ++ uppered g.event ++
        " ON " ++ ident table ++ " FOR EACH ROW\n" ++ g.action ++ ";" ∧
    unwrapBlock g.action = trimmed g.body ∧
    (∀ n, ∃ g', rounds (n + 1) g = .ok g' ∧ g'.body = trimmed g.body) ∧
    ∀ stored n, ∃ g', rounds n { g with body := unwrapBlock stored } = .ok g' ∧
      g'.body = unwrapBlock stored := by
  refine ⟨text_createTrigger table g, unwrapBlock_action g, fun n => ?_, fun stored n => ?_⟩
  · let first : Trigger := ⟨trimmed g.name, uppered g.timing, uppered g.event, trimmed g.body⟩
    have hfirst : trimmed first.body = first.body := trimmed_trimmed g.body
    rw [rounds_succ]
    exact body_rounds hfirst n
  · let read : Trigger := { g with body := unwrapBlock stored }
    have hread : trimmed read.body = read.body := trimmed_unwrapBlock stored
    exact body_rounds hread n

end Trigger

end TableDraft
