import TableDraft.Proofs.Rollout.Traffic

namespace TableDraft
open TableDraft.Sql

/-- The answer to the statement that is sent after `i` others. -/
def Server.answerAt (s : Server) (t : Traffic) (i : Nat) : Answer :=
  s.answers.getD (t.executed.length + i) .done

namespace Rollout

/-- The traffic once all of some statements are sent. -/
def sendingAll (t : Traffic) (statements : List String) : Traffic :=
  { t with executed := t.executed ++ statements.map unterminated }

theorem sendingAll_nil (t : Traffic) : sendingAll t [] = t := by
  simp [sendingAll]

theorem sendingAll_append (t : Traffic) (l m : List String) :
    sendingAll t (l ++ m) = sendingAll (sendingAll t l) m := by
  simp [sendingAll]

theorem answerAt_sendingAll (s : Server) (t : Traffic) (l : List String) (i : Nat) :
    s.answerAt (sendingAll t l) i = s.answerAt t (l.length + i) := by
  simp [Server.answerAt, sendingAll, Nat.add_assoc]

variable {s : Server} {t : Traffic}

theorem send_cons_answerAt (n : Nat) (x : String) (r : List String) :
    send s n (x :: r) t = match s.answerAt t 0 with
      | .done => send s (n + 1) r (sendingAll t [x])
      | .failed message => (.ok (n, .stopped x message), sendingAll t [x])
      | .unsupported => (.ok (n, .unsupported), sendingAll t [x]) :=
  send_cons s n x r t

/-- Statements that are accepted are counted, and the others come after them. -/
theorem send_append {l : List String} (h : ∀ i < l.length, s.answerAt t i = .done) (n : Nat)
    (r : List String) : send s n (l ++ r) t = send s (n + l.length) r (sendingAll t l) := by
  induction l generalizing n t with
  | nil => rw [sendingAll_nil]; rfl
  | cons x l ih =>
    have hfirst : s.answerAt t 0 = .done := h 0 (Nat.succ_pos _)
    have hrest : ∀ i < l.length, s.answerAt (sendingAll t [x]) i = .done := by
      intro i hi
      rw [answerAt_sendingAll, List.length_singleton, Nat.add_comm]
      exact h (i + 1) (Nat.succ_lt_succ hi)
    rw [List.cons_append, send_cons_answerAt, hfirst]
    show send s (n + 1) (l ++ r) (sendingAll t [x]) = _
    rw [ih hrest, ← sendingAll_append, List.length_cons, Nat.add_assoc, Nat.add_comm 1]
    rfl

theorem send_complete {l : List String} (h : ∀ i < l.length, s.answerAt t i = .done) (n : Nat) :
    send s n l t = (.ok (n + l.length, .complete), sendingAll t l) := by
  have hsend := send_append h n []
  rwa [List.append_nil] at hsend

/-- The first statement that is not accepted is the last one that is sent. -/
theorem send_stops {l : List String} {k : Nat} (hk : k < l.length)
    (h : ∀ i < k, s.answerAt t i = .done) (n : Nat) :
    (∀ m, s.answerAt t k = .failed m →
      send s n l t = (.ok (n + k, .stopped l[k] m), sendingAll t (l.take (k + 1)))) ∧
    (s.answerAt t k = .unsupported →
      send s n l t = (.ok (n + k, .unsupported), sendingAll t (l.take (k + 1)))) := by
  have hbefore : (l.take k).length = k := List.length_take_of_le (Nat.le_of_lt hk)
  have haccepted : ∀ i < (l.take k).length, s.answerAt t i = .done := by
    rwa [hbefore]
  have hsplit : l = l.take k ++ l[k] :: l.drop (k + 1) := by
    rw [← List.drop_eq_getElem_cons hk, List.take_append_drop]
  have hanswer : s.answerAt (sendingAll t (l.take k)) 0 = s.answerAt t k := by
    rw [answerAt_sendingAll, hbefore, Nat.add_zero]
  have hsent : sendingAll (sendingAll t (l.take k)) [l[k]] = sendingAll t (l.take (k + 1)) := by
    rw [← sendingAll_append, List.take_append_getElem hk]
  have hsend := send_append haccepted n (l[k] :: l.drop (k + 1))
  rw [← hsplit, hbefore, send_cons_answerAt, hanswer, hsent] at hsend
  refine ⟨fun m hm => ?_, fun hm => ?_⟩
  · rw [hsend, hm]
  · rw [hsend, hm]

/-- A server accepts all of some statements, or there is a first one that it does not. -/
theorem answers_cases (s : Server) (t : Traffic) (count : Nat) :
    (∀ i < count, s.answerAt t i = .done) ∨
      ∃ k < count, (∀ i < k, s.answerAt t i = .done) ∧ s.answerAt t k ≠ .done := by
  induction count with
  | zero => exact .inl fun i hi => absurd hi (Nat.not_lt_zero i)
  | succ n ih =>
    rcases ih with hall | ⟨k, hk, hbefore, hstop⟩
    · by_cases hn : s.answerAt t n = .done
      · left
        intro i hi
        rcases Nat.lt_succ_iff_lt_or_eq.1 hi with hi | rfl
        · exact hall i hi
        · exact hn
      · exact .inr ⟨n, Nat.lt_succ_self n, hall, hn⟩
    · exact .inr ⟨k, Nat.lt_succ_of_lt hk, hbefore, hstop⟩

/-- In any case the statements that are sent are the first ones, and all of them if the sending is
complete. -/
theorem send_takes (s : Server) (n : Nat) (l : List String) (t : Traffic) :
    ∃ k, (send s n l t).2 = sendingAll t (l.take k) ∧
      ∀ m, (send s n l t).1 = .ok (m, .complete) → k = l.length := by
  rcases answers_cases s t l.length with hall | ⟨k, hk, hbefore, hstop⟩
  · refine ⟨l.length, ?_, fun _ _ => rfl⟩
    rw [send_complete hall, List.take_length]
  · obtain ⟨hfailed, hunsupported⟩ := send_stops hk hbefore n
    refine ⟨k + 1, ?_⟩
    cases hanswer : s.answerAt t k with
    | done => exact absurd hanswer hstop
    | failed m =>
      rw [hfailed m hanswer]
      exact ⟨rfl, fun _ h => nomatch h⟩
    | unsupported =>
      rw [hunsupported hanswer]
      exact ⟨rfl, fun _ h => nomatch h⟩

theorem push_takes (s : Server) (l : List String) (lockGuard force : Bool) (t : Traffic) :
    ∃ k, (push s l ⟨false, true, lockGuard, force⟩ t).2 = sendingAll t (l.take k) ∧
      ∀ r, (push s l ⟨false, true, lockGuard, force⟩ t).1 = .ok r → r.success = true →
        k = l.length := by
  obtain ⟨k, hsent, hcomplete⟩ := send_takes s 0 l t
  refine ⟨k, by rw [push_traffic, hsent], fun r hr hsuccess => ?_⟩
  rw [push_confirmed] at hr
  cases hsend : send s 0 l t with
  | mk result t' =>
    rw [hsend] at hr hcomplete
    cases result with
    | error f => cases hr
    | ok outcome =>
      obtain ⟨sent, ending⟩ := outcome
      cases ending with
      | complete => exact hcomplete sent rfl
      | stopped x m =>
        cases hr
        cases hsuccess
      | unsupported => cases hr

/-- A confirmed plan is sent up to some statement, and not at all against the guard. -/
theorem pushPlan_takes (s : Server) (plan : Plan) (lockGuard force : Bool) (t : Traffic) :
    ∃ k, (pushPlan s plan ⟨false, true, lockGuard, force⟩ t).2 =
        sendingAll t (plan.statements.take k) ∧
      (0 < k → lockGuard = false ∨ force = true ∨ plan.highRisk = []) ∧
      ∀ r, (pushPlan s plan ⟨false, true, lockGuard, force⟩ t).1 = .ok r → r.success = true →
        k = plan.statements.length := by
  unfold pushPlan
  split
  · refine ⟨0, by rw [List.take_zero, sendingAll_nil]; rfl, fun h => absurd h (Nat.lt_irrefl 0), ?_⟩
    rintro r hr hsuccess
    cases hr
    cases hsuccess
  next hallowed =>
    obtain ⟨k, hsent, hall⟩ := push_takes s plan.statements lockGuard force t
    refine ⟨k, hsent, fun _ => ?_, hall⟩
    cases lockGuard with
    | false => exact .inl rfl
    | true =>
      cases force with
      | true => exact .inr (.inl rfl)
      | false => exact .inr (.inr (by simpa using hallowed))

/-- A dry run sends nothing, and neither does a push that is not confirmed. -/
theorem push_unsent (s : Server) (statements : List String) {p : Permission}
    (h : p.dryRun = true ∨ p.confirm = false) (t : Traffic) :
    ∃ r, push s statements p t = (.ok r, t) ∧ r.total = statements.length ∧ r.executed = 0 ∧
      r.failedStatement = none := by
  cases statements with
  | nil => exact ⟨_, rfl, rfl, rfl, rfl⟩
  | cons x l =>
    obtain ⟨dryRun, confirm, lockGuard, force⟩ := p
    cases dryRun with
    | true => exact ⟨_, rfl, rfl, rfl, rfl⟩
    | false =>
      obtain rfl : confirm = false := h.resolve_left Bool.false_ne_true
      exact ⟨_, rfl, rfl, rfl, rfl⟩

/-- Nothing is sent without leave. With it, each statement up to the first that the server does not
accept is sent once and in order, and the report gives the number of those before it. -/
theorem push_exact (s : Server) (statements : List String) (p : Permission) (t : Traffic) :
    (p.dryRun = true ∨ p.confirm = false → ∃ r, push s statements p t = (.ok r, t) ∧
      r.total = statements.length ∧ r.executed = 0 ∧ r.failedStatement = none) ∧
    (p.dryRun = false → p.confirm = true →
      (∀ (k : Nat) (hk : k < statements.length), (∀ i < k, s.answerAt t i = .done) →
        (∀ m, s.answerAt t k = .failed m →
          push s statements p t = (.ok ⟨false, false, statements.length, k, some statements[k],
            some ("Failed to push changes: " ++ m)⟩, sendingAll t (statements.take (k + 1)))) ∧
        (s.answerAt t k = .unsupported → push s statements p t =
          (.error .statementsUnsupported, sendingAll t (statements.take (k + 1))))) ∧
      ((∀ i < statements.length, s.answerAt t i = .done) → push s statements p t =
        (.ok ⟨true, false, statements.length, statements.length, none, none⟩,
          sendingAll t statements))) := by
  refine ⟨fun h => push_unsent s statements h t, fun hdry hconfirm => ?_⟩
  obtain ⟨dryRun, confirm, lockGuard, force⟩ := p
  subst hdry hconfirm
  refine ⟨fun k hk hbefore => ?_, fun h => ?_⟩
  · obtain ⟨hfailed, hunsupported⟩ := send_stops hk hbefore 0
    refine ⟨fun m hm => ?_, fun hm => ?_⟩
    · rw [push_confirmed, hfailed m hm, Nat.zero_add]
      rfl
    · rw [push_confirmed, hunsupported hm]
      rfl
  · rw [push_confirmed, send_complete h, Nat.zero_add]
    rfl

/-- The second of three statements fails, on a server that has had a statement before them. -/
theorem push_exact_second_fails :
    let s : Server := ⟨fun _ => .ok [], [.unsupported, .done, .failed "gone away"], .ok "8.0"⟩
    let t : Traffic := ⟨[], [], ["SELECT 1"], 0⟩
    let statements := ["DROP INDEX `a` ON `t`;", " ALTER TABLE `t`;; ", "x"]
    let p : Permission := ⟨false, true, true, false⟩
    (s.answerAt t 0 = .done ∧ s.answerAt t 1 = .failed "gone away") ∧
      push s statements p t = (.ok ⟨false, false, 3, 1, some " ALTER TABLE `t`;; ",
          some "Failed to push changes: gone away"⟩,
        ⟨[], [], ["SELECT 1", "DROP INDEX `a` ON `t`", "ALTER TABLE `t`;"], 0⟩) := by
  intro s t statements p
  have hanswers : s.answerAt t 0 = .done ∧ s.answerAt t 1 = .failed "gone away" := by decide
  obtain ⟨-, hconfirmed⟩ := push_exact s statements p t
  have hbefore : ∀ i < 1, s.answerAt t i = .done := by
    intro i hi
    rw [Nat.lt_one_iff.1 hi]
    exact hanswers.1
  have hstop := ((hconfirmed rfl rfl).1 1 (by decide) hbefore).1 "gone away" hanswers.2
  have hsent : sendingAll t (statements.take 2) =
      ⟨[], [], ["SELECT 1", "DROP INDEX `a` ON `t`", "ALTER TABLE `t`;"], 0⟩ := by decide
  have herror : "Failed to push changes: " ++ "gone away" =
      "Failed to push changes: gone away" := by decide
  rw [hsent, herror] at hstop
  exact ⟨hanswers, hstop⟩

end Rollout

end TableDraft
