import TableDraft.Proofs.Command.Clients
import TableDraft.Proofs.Rollout.Push

namespace TableDraft
open TableDraft.Sql

theorem moves_connectTo (name : String) : Moves Workspace.traffic Traffic.Settles (connectTo name) := by
  unfold connectTo
  refine keeps_get.bind_moves Traffic.settles_refl fun w => ?_
  cases w.config with
  | error f =>
    cases f with
    | noConfig directory => exact (keeps_pure _).moves Traffic.settles_refl
    | _ => exact (keeps_throw _).moves Traffic.settles_refl
  | ok config =>
    dsimp only
    cases config.profiles.lookup name with
    | none => exact (keeps_pure _).moves Traffic.settles_refl
    | some profile =>
      have hprobe : Moves Workspace.traffic Traffic.Settles
          (Job.onServer (probe profile.resolvedUrl)) := by
        exact Job.moves_onServer fun s t => (probe_closes profile.resolvedUrl s t).settles _
      refine (Job.moves_attempt hprobe).bind_keeps fun result => ?_
      cases result with
      | error f => exact keeps_pure _
      | ok version => exact Keeps.bind (fun _ => rfl) fun _ => keeps_pure _

theorem moves_connect (chosen : Option String) (envPrefix : String) :
    Moves Workspace.traffic Traffic.Settles (connect chosen envPrefix) := by
  unfold connect
  cases chosen with
  | some name => exact moves_connectTo name
  | none =>
    refine keeps_get.bind_moves Traffic.settles_refl fun w => ?_
    cases w.activeName envPrefix with
    | ok name => exact moves_connectTo name
    | error f => exact (keeps_pure _).moves Traffic.settles_refl

namespace Command
open Job

theorem keeps_runPlan (t : Target) : Keeps Workspace.world (runPlan t) := by
  unfold runPlan
  refine (keeps_planOfFiles t).bind fun plan => ?_
  cases plan with
  | none => exact keeps_pure 1
  | some plan => exact (prints_printPlan plan).keeps.bind fun _ => keeps_pure 0

theorem keeps_runStatus : Keeps Workspace.world runStatus := by
  unfold runStatus
  refine keeps_get.bind fun w => ?_
  cases w.lock?.filter (· != "") with
  | none =>
    exact (keeps_print _).bind fun _ => (keeps_print _).bind fun _ => keeps_pure 0
  | some name =>
    exact (keeps_ofExcept _).bind fun _ => (keeps_printEvent _).bind fun _ => keeps_pure 0

theorem keeps_runProfiles : Keeps Workspace.world runProfiles := by
  unfold runProfiles
  refine keeps_get.bind fun w => ?_
  cases w.config with
  | error f =>
    cases f with
    | noConfig directory => exact (keeps_printFailure _ _ _).bind fun _ => keeps_pure 1
    | _ => exact keeps_throw _
  | ok config =>
    refine (keeps_printEvent _).bind fun _ => ?_
    dsimp only
    split
    · exact (keeps_print _).bind fun _ => keeps_pure 0
    · exact keeps_pure 0

theorem moves_runConnect (envPrefix : String) :
    Moves Workspace.traffic Traffic.Settles (runConnect envPrefix) := by
  unfold runConnect
  refine keeps_get.bind_moves Traffic.settles_refl fun w => ?_
  refine (keeps_traffic (keeps_printStyled _ _)).bind_moves Traffic.settles_refl fun _ => ?_
  refine (moves_connect none envPrefix).bind_keeps fun c => keeps_traffic ?_
  refine (keeps_print _).bind fun _ => ?_
  split
  · refine (keeps_print _).bind fun _ => (keeps_print _).bind fun _ => ?_
    dsimp only
    split
    · split
      · exact (keeps_print _).bind fun _ => keeps_pure 0
      · exact keeps_pure 0
    · exact keeps_pure 0
  · exact (keeps_print _).bind fun _ => keeps_pure 1

theorem keeps_printDefinition (database table : String) (output : Option String) (d : Definition) :
    Keeps Workspace.traffic (printDefinition database table output d) := by
  unfold printDefinition
  refine (keeps_traffic (keeps_printEvent _)).bind fun _ => ?_
  refine (keeps_traffic (keeps_print _)).bind fun _ => ?_
  cases output.filter (· != "") with
  | none => exact keeps_traffic (keeps_printRaw _)
  | some path =>
    refine (keeps_writeFile _ _).bind fun _ => ?_
    exact keeps_traffic ((keeps_print _).bind fun _ => keeps_print _)

/-- Loading asks, and closes the client that was opened for it. -/
theorem moves_loadFromServer (database table : String) :
    Moves Workspace.traffic Traffic.Closes (loadFromServer database table) := by
  intro w
  unfold loadFromServer
  rw [get_bind]
  refine Moves.bind_keeps (moves_onServer fun s t => ?_) (fun p => ?_) w
  · rw [finallyDo_close]
    exact Traffic.closes_of_unasked (Catalog.keeps_load s w.ids database table t)
  · exact Keeps.bind (fun _ => rfl) fun _ => keeps_pure _

theorem moves_runInspect (envPrefix database table : String) (output : Option String) :
    Moves Workspace.traffic Traffic.Settles (runInspect envPrefix database table output) := by
  intro w
  unfold runInspect
  rw [bind_apply, attempt_apply]
  obtain ⟨f, hopen⟩ | ⟨u, hopen⟩ := openClient_cases none envPrefix none w
  · rw [hopen]
    dsimp only
    split
    · exact (keeps_traffic ((keeps_printFailure _ _ _).bind fun _ => keeps_pure 1)).moves
        Traffic.settles_refl w
    · exact Traffic.settles_refl _
  · rw [hopen]
    refine Traffic.Closes.settles u ?_
    refine (moves_attempt (moves_loadFromServer database table)).bind_keeps (fun result => ?_)
      { w with traffic := w.traffic.opening u }
    cases result with
    | error f =>
      refine keeps_traffic ?_
      dsimp only
      split <;> exact (keeps_printFailure _ _ _).bind fun _ => keeps_pure 1
    | ok d => exact (keeps_printDefinition database table output d).bind fun _ => keeps_pure 0

theorem keeps_printResult (t : Target) (force : Bool) (r : PushResult) :
    Keeps Workspace.world (printResult t force r) := by
  unfold printResult printBlank
  refine (keeps_print _).bind fun _ => ?_
  split
  · exact (keeps_print _).bind fun _ => (keeps_print _).bind fun _ => keeps_pure 0
  · refine (keeps_print _).bind fun _ => ?_
    dsimp only
    split
    · exact (keeps_print _).bind fun _ => (keeps_printRaw _).bind fun _ => keeps_pure 1
    · split
      · exact (keeps_print _).bind fun _ => keeps_pure 1
      · exact keeps_pure 1

/-- Only a push that succeeded ends with the exit code 0. -/
theorem success_of_printResult {t : Target} {force : Bool} {r : PushResult} {w : Workspace}
    (h : (printResult t force r w).1 = .ok 0) : r.success = true := by
  unfold printResult at h
  cases hsuccess : r.success with
  | true => rfl
  | false =>
    -- whatever else is printed, the code is 1
    rw [hsuccess, if_neg Bool.false_ne_true] at h
    dsimp only at h
    split at h
    · cases h
    · split at h <;> cases h

/-- The first `k` statements of a plan are sent, and the client is closed. -/
theorem executePlan_takes (plan : Plan) (lockGuard force : Bool) (w : Workspace) :
    ∃ k, (executePlan plan lockGuard force w).2.traffic =
        { Rollout.sendingAll w.traffic (plan.statements.take k) with
          closed := w.traffic.closed + 1 } ∧
      (0 < k → lockGuard = false ∨ force = true ∨ plan.highRisk = []) ∧
      ∀ r, (executePlan plan lockGuard force w).1 = .ok r → r.success = true →
        k = plan.statements.length := by
  obtain ⟨k, hsent, hallowed, hall⟩ :=
    Rollout.pushPlan_takes w.server plan lockGuard force w.traffic
  have hexecute : executePlan plan lockGuard force w =
      ((Rollout.pushPlan w.server plan ⟨false, true, lockGuard, force⟩ w.traffic).1,
        { w with traffic := { Rollout.sendingAll w.traffic (plan.statements.take k) with
          closed := w.traffic.closed + 1 } }) := by
    unfold executePlan Job.onServer
    dsimp only
    rw [finallyDo_close, hsent]
    rfl
  refine ⟨k, by rw [hexecute], hallowed, ?_⟩
  rw [hexecute]
  exact hall

/-- A profile is active, and the lock guard is off or overruled, or has nothing against the plan. -/
def Permits (w : Workspace) (envPrefix : String) (force : Bool) (plan : Plan) : Prop :=
  (∃ name, w.activeName envPrefix = .ok name) ∧
    ∃ c, w.config = .ok c ∧ (c.lockGuard = false ∨ force = true ∨ plan.highRisk = [])

/-- A push of a plan that left the texts of its first `k` statements with the server, none of them
unless `allowed`, and each of them if it ended well. Every client is closed. -/
def PushedFirst (k : Nat) (plan : Plan) (allowed : Prop) (t : Traffic)
    (outcome : Except Failure Nat × Workspace) : Prop :=
  (outcome.2.traffic.executed = t.executed ++ (plan.statements.take k).map unterminated ∧
    t.ClosesAll outcome.2.traffic) ∧
  (0 < k → allowed) ∧ (outcome.1 = .ok 0 → k = plan.statements.length)

theorem pushedFirst_zero {m : Job Nat} (hm : Keeps Workspace.world m) {w : Workspace}
    (hcode : (m w).1 ≠ .ok 0) (plan : Plan) (allowed : Prop) :
    PushedFirst 0 plan allowed w.traffic (m w) := by
  refine ⟨?_, fun h => absurd h (Nat.lt_irrefl 0), fun h => absurd h hcode⟩
  rw [keeps_traffic hm w]
  exact ⟨(List.append_nil _).symm, 0, Nat.zero_le 1, rfl, rfl⟩

theorem pushedFirst_failure (before : String) (f : Failure) (after : String) (w : Workspace)
    (plan : Plan) (allowed : Prop) : PushedFirst 0 plan allowed w.traffic
      ((do printFailure before f after; pure 1 : Job Nat) w) := by
  refine pushedFirst_zero ((keeps_printFailure _ _ _).bind fun _ => keeps_pure 1) ?_ plan allowed
  obtain ⟨shown, hcode⟩ := (prints_printFailure before f after).bind_apply (fun _ => pure 1) w
  rw [hcode]
  nofun

/-- With an open client the first statements are sent, and its closing is all that comes after. -/
theorem execute_pushedFirst (t : Target) (plan : Plan) (lockGuard force : Bool) {url : String}
    {traffic : Traffic} {w : Workspace} (h : w.traffic = traffic.opening url) :
    ∃ k, PushedFirst k plan (lockGuard = false ∨ force = true ∨ plan.highRisk = []) traffic
      ((executePlan plan lockGuard force >>= printResult t force) w) := by
  obtain ⟨k, hsent, hallowed, hall⟩ := executePlan_takes plan lockGuard force w
  refine ⟨k, ?_, hallowed, fun hcode => ?_⟩
  · rw [bind_kept (fun r => keeps_traffic (keeps_printResult t force r)) w, hsent, h]
    exact ⟨rfl, 1, Nat.le_refl 1, List.length_append, rfl⟩
  · obtain ⟨r, w', hr, hprinted⟩ := bind_apply_eq_ok.1 (Prod.ext hcode rfl)
    exact hall r (congrArg Prod.fst hr) (success_of_printResult (congrArg Prod.fst hprinted))

theorem pushConfirmed_takes (envPrefix profile : String) (t : Target) (force : Bool) (plan : Plan)
    (w : Workspace) :
    ∃ k, PushedFirst k plan
      (∃ c, w.config = .ok c ∧ (c.lockGuard = false ∨ force = true ∨ plan.highRisk = []))
      w.traffic (pushConfirmed envPrefix profile t force plan w) := by
  unfold pushConfirmed
  rw [get_bind]
  cases w.config with
  | error f =>
    refine ⟨0, ?_⟩
    cases f with
    | noConfig directory => exact pushedFirst_failure _ _ _ w plan _
    | _ => exact pushedFirst_zero (keeps_throw _) nofun plan _
  | ok config =>
    dsimp only
    rw [bind_apply, attempt_apply]
    obtain ⟨f, hopen⟩ | ⟨u, hopen⟩ := openClient_cases (some profile) envPrefix none w
    · rw [hopen]
      exact ⟨0, pushedFirst_failure _ _ _ w plan _⟩
    · rw [hopen]
      let opened : Workspace := { w with
        traffic := w.traffic.opening u
        printed := w.printed ++ [.text "" none false] ++
          [.text "[bold]Pushing changes...[/bold]" none false] }
      obtain ⟨k, htraffic, hallowed, hcode⟩ :=
        execute_pushedFirst t plan config.lockGuard force (w := opened) rfl
      exact ⟨k, htraffic, fun hk => ⟨config, rfl, hallowed hk⟩, hcode⟩

/-- The same once the plan was made and printed. -/
theorem pushConfirmed_permitted {envPrefix profile : String} (t : Target) (force : Bool)
    (plan : Plan) {w v : Workspace} (hname : w.activeName envPrefix = .ok profile)
    (hv : v.world = w.world) :
    ∃ k, PushedFirst k plan (Permits w envPrefix force plan) w.traffic
      (pushConfirmed envPrefix profile t force plan v) := by
  obtain ⟨k, htraffic, hallowed, hcode⟩ := pushConfirmed_takes envPrefix profile t force plan v
  rw [Workspace.traffic_of_world hv] at htraffic
  rw [Workspace.config_of_world hv] at hallowed
  exact ⟨k, htraffic, fun hk => ⟨⟨profile, hname⟩, hallowed hk⟩, hcode⟩

/-- A push sends nothing unless it is confirmed, a profile is active and both files load; and then no
more than the guard lets pass. -/
theorem runPush_takes (envPrefix : String) (t : Target) (confirm force : Bool) (w : Workspace) :
    (runPush envPrefix t confirm force w).2.traffic = w.traffic ∧
        ((runPush envPrefix t confirm force w).1 = .ok 0 → confirm = true →
          ∃ plan, Plans w t plan ∧ plan.statements = []) ∨
      ∃ plan k, confirm = true ∧ Plans w t plan ∧
        PushedFirst k plan (Permits w envPrefix force plan) w.traffic
          (runPush envPrefix t confirm force w) := by
  unfold runPush
  rw [get_bind]
  cases hname : w.activeName envPrefix with
  | error f => exact .inl ⟨rfl, nofun⟩
  | ok profile =>
    dsimp only
    obtain ⟨f, u, -, hrun, hu⟩ | ⟨plan?, u, hplan, hrun, hu⟩ :=
      (keeps_planOfFiles t).bind_cases _ w
    · rw [hrun]
      exact .inl ⟨Workspace.traffic_of_world hu, nofun⟩
    rw [hrun]
    cases plan? with
    | none => exact .inl ⟨Workspace.traffic_of_world hu, nofun⟩
    | some plan =>
      have hplans := plans_of_planOfFiles hplan
      dsimp only
      cases hchanges : plan.hasChanges with
      | false =>
        have hnone : plan.statements = [] := by
          simpa [Plan.hasChanges] using hchanges
        exact .inl ⟨Workspace.traffic_of_world hu, fun _ _ => ⟨plan, hplans, hnone⟩⟩
      | true =>
        rw [Bool.not_true, if_neg Bool.false_ne_true]
        -- three things are printed first, and change nothing that is read later
        obtain ⟨heading, hheading⟩ := (prints_printEvent _).bind_apply _ u
        obtain ⟨blank, hblank⟩ := (prints_printEvent (.text "" none false)).bind_apply _ _
        obtain ⟨shown, hshown⟩ := (prints_printPlan plan).bind_apply _ _
        rw [Job.print, hheading, printBlank, Job.print, hblank, hshown]
        cases confirm with
        | false => exact .inl ⟨Workspace.traffic_of_world hu, fun _ h => nomatch h⟩
        | true =>
          rw [Bool.not_true, if_neg Bool.false_ne_true]
          obtain ⟨k, hpushed⟩ := pushConfirmed_permitted t force plan hname
            (v := ((u.showing heading).showing blank).showing shown) hu
          exact .inr ⟨plan, k, rfl, hplans, hpushed⟩

/-- Runs a command line to its exit code. -/
def runLine (args : List String) : Job Nat :=
  match readRequest args with
  | .run i => run i
  | .help => pure 0
  | .invalid => pure 2

/-- Whether an action never turns to a server. -/
def Action.isLocal : Action → Bool
  | .plan _ => true
  | .status => true
  | .profiles => true
  | _ => false

theorem keeps_run_local {i : Invocation} (h : i.action.isLocal = true) :
    Keeps Workspace.world (run i) := by
  unfold run
  cases haction : i.action with
  | plan t => exact keeps_runPlan t
  | status => exact keeps_runStatus
  | profiles => exact keeps_runProfiles
  | _ =>
    rw [haction] at h
    cases h

/-- All commands but a confirmed push send nothing. -/
theorem run_settles {i : Invocation} (h : ∀ t force, i.action ≠ .push t true force) (w : Workspace) :
    w.traffic.Settles (run i w).2.traffic := by
  unfold run
  cases haction : i.action with
  | connect => exact moves_runConnect i.envPrefix w
  | inspect database table output => exact moves_runInspect i.envPrefix database table output w
  | push t confirm force =>
    obtain ⟨htraffic, -⟩ | ⟨plan, k, rfl, -⟩ := runPush_takes i.envPrefix t confirm force w
    · dsimp only
      rw [htraffic]
      exact Traffic.settles_refl w.traffic
    · exact absurd haction (h t force)
  | plan t => exact (keeps_traffic (keeps_runPlan t)).moves Traffic.settles_refl w
  | status => exact (keeps_traffic keeps_runStatus).moves Traffic.settles_refl w
  | profiles => exact (keeps_traffic keeps_runProfiles).moves Traffic.settles_refl w

/-- The statements that a command may send: the first ones of the plan between two files, in a push
that is confirmed and permitted. -/
def MaySend (i : Invocation) (w : Workspace) (sent : List String) : Prop :=
  ∃ t force plan, i.action = .push t true force ∧ Plans w t plan ∧
    Permits w i.envPrefix force plan ∧ sent <+: plan.statements.map unterminated

theorem runPush_safe (envPrefix : String) (t : Target) (force : Bool) (w : Workspace) :
    let outcome := runPush envPrefix t true force w
    (∃ sent, outcome.2.traffic.executed = w.traffic.executed ++ sent ∧
      (sent ≠ [] → MaySend ⟨envPrefix, .push t true force⟩ w sent)) ∧
    (outcome.1 = .ok 0 → ∃ plan, Plans w t plan ∧
      outcome.2.traffic.executed = w.traffic.executed ++ plan.statements.map unterminated) ∧
    w.traffic.ClosesAll outcome.2.traffic := by
  intro outcome
  obtain ⟨htraffic, hcode⟩ | ⟨plan, k, -, hplans, ⟨hsent, hclosed⟩, hallowed, hcode⟩ :=
    runPush_takes envPrefix t true force w
  · have hexecuted : outcome.2.traffic.executed = w.traffic.executed ++ [] := by
      rw [htraffic, List.append_nil]
    refine ⟨⟨[], hexecuted, fun h => absurd rfl h⟩, fun h => ?_, ?_⟩
    · obtain ⟨plan, hplans, hnone⟩ := hcode h rfl
      exact ⟨plan, hplans, by rw [hexecuted, hnone]; rfl⟩
    · rw [htraffic]
      exact (Traffic.settles_refl w.traffic).2
  · refine ⟨⟨_, hsent, fun h => ⟨t, force, plan, rfl, hplans, hallowed ?_, ?_⟩⟩, fun h => ?_, hclosed⟩
    · cases k with
      | zero => exact absurd rfl h
      | succ k => exact Nat.succ_pos k
    · exact (List.take_prefix k plan.statements).map unterminated
    · refine ⟨plan, hplans, ?_⟩
      rw [hsent, hcode h, List.take_length]

/-- What a command line can do. Statements are sent only with leave, and in a confirmed push that ends
well all of them; the commands that need no server leave it alone; and whatever comes of it, at most
one client was opened and none stays open. -/
theorem runLine_safe (args : List String) (w : Workspace) :
    let outcome := runLine args w
    (∃ sent, outcome.2.traffic.executed = w.traffic.executed ++ sent ∧
      (sent ≠ [] → ∃ i, readRequest args = .run i ∧ MaySend i w sent)) ∧
    (∀ envPrefix t force, readRequest args = .run ⟨envPrefix, .push t true force⟩ →
      outcome.1 = .ok 0 → ∃ plan, Plans w t plan ∧
        outcome.2.traffic.executed = w.traffic.executed ++ plan.statements.map unterminated) ∧
    (∀ i, readRequest args = .run i → i.action.isLocal = true → outcome.2.traffic = w.traffic) ∧
    w.traffic.ClosesAll outcome.2.traffic := by
  intro outcome
  cases hrequest : readRequest args with
  | run i =>
    obtain ⟨envPrefix, action⟩ := i
    have hrun : outcome = run ⟨envPrefix, action⟩ w := by
      show runLine args w = _
      rw [runLine, hrequest]
    have hlocal : ∀ i, Request.run ⟨envPrefix, action⟩ = .run i → i.action.isLocal = true →
        outcome.2.traffic = w.traffic := by
      rintro i ⟨⟩ hi
      rw [hrun]
      exact keeps_traffic (keeps_run_local hi) w
    by_cases hpush : ∃ t force, action = .push t true force
    · obtain ⟨t, force, rfl⟩ := hpush
      obtain ⟨⟨sent, hsent, hleave⟩, hcomplete, hclosed⟩ := runPush_safe envPrefix t force w
      rw [hrun]
      refine ⟨⟨sent, hsent, fun h => ⟨_, rfl, hleave h⟩⟩, ?_, hrun ▸ hlocal, hclosed⟩
      rintro _ _ _ ⟨⟩ hcode
      exact hcomplete hcode
    · have hother : ∀ t force, action ≠ .push t true force :=
        fun t force h => hpush ⟨t, force, h⟩
      obtain ⟨hexecuted, hclosed⟩ := run_settles (i := ⟨envPrefix, action⟩) hother w
      refine ⟨⟨[], ?_, fun h => absurd rfl h⟩, ?_, hlocal, ?_⟩
      · rw [hrun, hexecuted, List.append_nil]
      · rintro _ t force ⟨⟩
        exact absurd rfl (hother t force)
      · rw [hrun]
        exact hclosed
  | _ =>
    have hnothing : outcome.2.traffic = w.traffic := by
      show (runLine args w).2.traffic = _
      rw [runLine, hrequest]
      rfl
    refine ⟨⟨[], by rw [hnothing, List.append_nil], fun h => absurd rfl h⟩, nofun, nofun, ?_⟩
    rw [hnothing]
    exact (Traffic.settles_refl w.traffic).2

/-- A confirmed push of one new column, of which nothing is at risk. -/
theorem runLine_safe_new_column :
    let files := [("db.toml", "profiles.p.url='u'"), ("a", "\x7b\x7d"),
      ("b", "\x7b\"columns\":[\x7b\"id\":1,\"name\":\"c\",\"data_type\":\"INT\"\x7d]\x7d")]
    let s : Server := ⟨fun _ => .ok [], [], .ok "8.0"⟩
    let w : Workspace :=
      ⟨"/", files, [], [("DB_PROFILE", "p")], s, Traffic.none, ⟨fun _ => "", 0⟩, []⟩
    let args := ["push", "--database", "d", "--table", "t", "--snapshot", "a", "--working", "b",
      "--confirm"]
    let t : Target := ⟨"d", "t", "a", "b"⟩
    let sent := ["ALTER TABLE `t` ADD COLUMN `c` INT NULL"]
    readRequest args = .run ⟨"", .push t true false⟩ ∧ (runLine args w).1 = .ok 0 ∧
      (runLine args w).2.traffic.executed = sent ∧ MaySend ⟨"", .push t true false⟩ w sent ∧
      (∃ plan, Plans w t plan ∧ plan.statements.map unterminated = sent) ∧
      w.traffic.ClosesAll (runLine args w).2.traffic := by
  intro files s w args t sent
  have hrequest : readRequest args = .run ⟨"", .push t true false⟩ := by decide +kernel
  have hcode : (runLine args w).1 = .ok 0 := by decide +kernel
  have hexecuted : (runLine args w).2.traffic.executed = sent := by decide +kernel
  obtain ⟨⟨sent', hsent', hleave⟩, hcomplete, -, hclosed⟩ := runLine_safe args w
  obtain rfl : sent' = sent := hsent'.symm.trans hexecuted
  obtain ⟨i, hi, hmay⟩ := hleave (List.cons_ne_nil _ _)
  obtain rfl : i = ⟨"", .push t true false⟩ := Request.run.inj (hi.symm.trans hrequest)
  obtain ⟨plan, hplans, hall⟩ := hcomplete "" t false hrequest hcode
  exact ⟨hrequest, hcode, hexecuted, hmay, ⟨plan, hplans, hall.symm.trans hexecuted⟩, hclosed⟩

end Command

end TableDraft
