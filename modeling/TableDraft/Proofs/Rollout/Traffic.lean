import TableDraft.Proofs.Checked
import TableDraft.Rollout

namespace TableDraft
open TableDraft.Sql

namespace Rollout

/-- The traffic once `statement` is sent. -/
def sending (t : Traffic) (statement : String) : Traffic :=
  { t with executed := t.executed ++ [unterminated statement] }

theorem send_cons (s : Server) (n : Nat) (statement : String) (r : List String) (t : Traffic) :
    send s n (statement :: r) t = match s.answers.getD t.executed.length .done with
      | .done => send s (n + 1) r (sending t statement)
      | .failed message => (.ok (n, .stopped statement message), sending t statement)
      | .unsupported => (.ok (n, .unsupported), sending t statement) := by
  rw [send, bind_apply, Server.run_execute]
  show (match s.answers.getD t.executed.length .done with
    | .done => send s (n + 1) r
    | .failed message => pure (n, .stopped statement message)
    | .unsupported => pure (n, .unsupported) : OnServer _) (sending t statement) = _
  cases s.answers.getD t.executed.length .done <;> rfl

/-- The outcome of a push from what was sent for it. -/
def report (total : Nat) : Except Failure (Nat × Ending) × Traffic → Except Failure PushResult × Traffic
  | (.ok (sent, .complete), t) => (.ok ⟨true, false, total, sent, none, none⟩, t)
  | (.ok (sent, .stopped statement message), t) =>
    (.ok ⟨false, false, total, sent, some statement, some ("Failed to push changes: " ++ message)⟩, t)
  | (.ok (_, .unsupported), t) => (.error .statementsUnsupported, t)
  | (.error f, t) => (.error f, t)

theorem push_confirmed (s : Server) (statements : List String) (lockGuard force : Bool)
    (t : Traffic) : push s statements ⟨false, true, lockGuard, force⟩ t =
      report statements.length (send s 0 statements t) := by
  unfold push
  cases statements with
  | nil => rfl
  | cons statement r =>
    show (send s 0 (statement :: r) >>= _) t = _
    rw [bind_apply]
    cases send s 0 (statement :: r) t with
    | mk result t' =>
      cases result with
      | error f => rfl
      | ok outcome =>
        obtain ⟨sent, ending⟩ := outcome
        cases ending <;> rfl

/-- A confirmed push adds nothing to the traffic of its statements. -/
theorem push_traffic (s : Server) (statements : List String) (lockGuard force : Bool)
    (t : Traffic) :
    (push s statements ⟨false, true, lockGuard, force⟩ t).2 = (send s 0 statements t).2 := by
  rw [push_confirmed]
  cases send s 0 statements t with
  | mk result t' =>
    cases result with
    | error f => rfl
    | ok outcome =>
      obtain ⟨sent, ending⟩ := outcome
      cases ending <;> rfl

/-- Statements that are sent as the same texts make the same traffic. -/
theorem send_traffic_congr (s : Server) {l m : List String}
    (h : l.map unterminated = m.map unterminated) (i j : Nat) (t : Traffic) :
    (send s i l t).2 = (send s j m t).2 := by
  -- the counts `i` and `j` may differ, since only the answer shows them
  induction l generalizing m i j t with
  | nil =>
    rw [List.map_nil, eq_comm, List.map_eq_nil_iff] at h
    subst h
    rfl
  | cons x l ih =>
    cases m with
    | nil => cases h
    | cons y m =>
      obtain ⟨hxy, hlm⟩ := List.cons.inj h
      have hsent : sending t x = sending t y := by
        rw [sending, sending, hxy]
      rw [send_cons, send_cons, hsent]
      cases s.answers.getD t.executed.length .done with
      | done => exact ih hlm (i + 1) (j + 1) (sending t y)
      | failed message => rfl
      | unsupported => rfl

end Rollout

end TableDraft
