import TableDraft.Proofs.Command.Safety
import TableDraft.Proofs.Command.Written

namespace TableDraft

namespace Job

theorem onServer_apply (work : Server → OnServer α) (w : Workspace) : onServer work w =
    ((work w.server w.traffic).1, { w with traffic := (work w.server w.traffic).2 }) :=
  rfl

theorem keeps_files {m : Job α} (h : Keeps Workspace.world m) : Keeps Workspace.files m :=
  h.of_comp Workspace.files

/-- Work that prints, and ends with an exit code. -/
def Exits (code : Nat) (m : Job Nat) : Prop :=
  ∀ w, ∃ shown, m w = (.ok code, w.showing shown)

theorem exits_pure (code : Nat) : Exits code (pure code) :=
  fun w => ⟨[], by rw [Workspace.showing, List.append_nil]; rfl⟩

theorem Prints.exits {m : Job Unit} {k : Job Nat} {code : Nat} (hm : Prints m) (hk : Exits code k) :
    Exits code (m >>= fun _ => k) := by
  intro w
  obtain ⟨shown, hshown⟩ := hm.bind_apply (fun _ => k) w
  obtain ⟨more, hmore⟩ := hk (w.showing shown)
  exact ⟨shown ++ more, by rw [hshown, hmore, Workspace.showing_append]⟩

end Job

/-- A connection that was not made. -/
def Connection.NotMade (result : Except Failure Connection) : Prop :=
  ∀ c, result = .ok c → c.success = false

/-- A connection to the server of a profile is made, and the lock holds its name; or nothing is
written. -/
theorem connectTo_cases (name : String) (w : Workspace) :
    (∃ version t, connectTo name w = (.ok ⟨true, some name, some version, none⟩,
        { w with traffic := t }.setFile lockFile name)) ∨
      Connection.NotMade (connectTo name w).1 ∧ (connectTo name w).2.files = w.files := by
  have hrefused (profile : Option String) (e : String) :
      Connection.NotMade (.ok (.refused profile e)) := by
    rintro c ⟨⟩
    rfl
  unfold connectTo
  rw [get_bind]
  cases w.config with
  | error f =>
    cases f with
    | noConfig directory => exact .inr ⟨hrefused _ _, rfl⟩
    | _ => exact .inr ⟨nofun, rfl⟩
  | ok config =>
    dsimp only
    cases config.profiles.lookup name with
    | none => exact .inr ⟨hrefused _ _, rfl⟩
    | some profile =>
      dsimp only
      rw [bind_apply, Job.attempt_apply, Job.onServer_apply]
      dsimp only
      cases (probe profile.resolvedUrl w.server w.traffic).1 with
      | error f => exact .inr ⟨hrefused _ _, rfl⟩
      | ok version => exact .inl ⟨version, _, rfl⟩

theorem connect_cases (chosen : Option String) (envPrefix : String) (w : Workspace) :
    (∃ name version t, (chosen = some name ∨ chosen = none ∧ w.activeName envPrefix = .ok name) ∧
        connect chosen envPrefix w = (.ok ⟨true, some name, some version, none⟩,
          { w with traffic := t }.setFile lockFile name)) ∨
      Connection.NotMade (connect chosen envPrefix w).1 ∧
        (connect chosen envPrefix w).2.files = w.files := by
  unfold connect
  cases chosen with
  | some name =>
    obtain ⟨version, t, hmade⟩ | hnot := connectTo_cases name w
    · exact .inl ⟨name, version, t, .inl rfl, hmade⟩
    · exact .inr hnot
  | none =>
    dsimp only
    rw [get_bind]
    cases hname : w.activeName envPrefix with
    | error f =>
      refine .inr ⟨?_, rfl⟩
      rintro c ⟨⟩
      rfl
    | ok name =>
      dsimp only
      obtain ⟨version, t, hmade⟩ | hnot := connectTo_cases name w
      · exact .inl ⟨name, version, t, .inr ⟨rfl, rfl⟩, hmade⟩
      · exact .inr hnot

namespace Command
open Job

/-- The command prints, connects and prints what came of it. -/
theorem runConnect_apply (envPrefix : String) (w : Workspace) :
    ∃ first shown, runConnect envPrefix w = match connect none envPrefix (w.showing first) with
      | (.ok c, u) => (.ok (if c.success then 0 else 1), u.showing shown)
      | (.error f, u) => (.error f, u) := by
  unfold runConnect
  rw [get_bind]
  obtain ⟨first, hfirst⟩ := (prints_printEvent _).bind_apply _ w
  refine ⟨first, ?_⟩
  rw [printStyled, hfirst, bind_apply]
  cases connect none envPrefix (w.showing first) with
  | mk result u =>
    cases result with
    | error f => exact ⟨[], rfl⟩
    | ok c =>
      refine (prints_printEvent _).exits ?_ u
      cases c.success with
      | false => exact (prints_printEvent _).exits (exits_pure 1)
      | true =>
        rw [if_pos rfl]
        refine (prints_printEvent _).exits ((prints_printEvent _).exits ?_)
        dsimp only
        split
        · split
          · exact (prints_printEvent _).exits (exits_pure 0)
          · exact exits_pure 0
        · exact exits_pure 0

/-- The command ends with the code 0 if the connection was made, and only then. -/
theorem runConnect_cases (envPrefix : String) (w : Workspace) :
    (∃ name, w.activeName envPrefix = .ok name ∧ (runConnect envPrefix w).1 = .ok 0 ∧
        (runConnect envPrefix w).2.files = (w.setFile lockFile name).files) ∨
      (runConnect envPrefix w).1 ≠ .ok 0 ∧ (runConnect envPrefix w).2.files = w.files := by
  obtain ⟨first, shown, hrun⟩ := runConnect_apply envPrefix w
  obtain ⟨name, version, t, hname, hmade⟩ | ⟨hnot, hfiles⟩ :=
    connect_cases none envPrefix (w.showing first)
  · obtain hname | ⟨-, hname⟩ := hname
    · cases hname
    · rw [hrun, hmade]
      exact .inl ⟨name, hname, rfl, rfl⟩
  · right
    rw [hrun]
    cases hresult : connect none envPrefix (w.showing first) with
    | mk result u =>
      rw [hresult] at hnot hfiles
      cases result with
      | error f => exact ⟨nofun, hfiles⟩
      | ok c =>
        dsimp only
        rw [hnot c rfl]
        exact ⟨nofun, hfiles⟩

/-- A definition is written to the file that the path leads to, if there is a path and it can be
written there. -/
theorem printDefinition_cases (database table : String) (output : Option String) (d : Definition)
    (w : Workspace) :
    (∃ path name, output.filter (· != "") = some path ∧ (w.place path).LeadsTo name ∧
        (printDefinition database table output d w).1 = .ok () ∧
        (printDefinition database table output d w).2.files =
          (w.setFile name (definitionText (some 2) d ++ "\n")).files) ∨
      (printDefinition database table output d w).2.files = w.files ∧
        (output.filter (· != "") = none ∨ (printDefinition database table output d w).1 ≠ .ok ()) := by
  unfold printDefinition
  obtain ⟨first, hfirst⟩ := (prints_printEvent _).bind_apply _ w
  obtain ⟨second, hsecond⟩ := (prints_printEvent _).bind_apply _ (w.showing first)
  rw [hfirst, Job.print, hsecond]
  cases output.filter (· != "") with
  | none => exact .inr ⟨rfl, .inl rfl⟩
  | some path =>
    dsimp only
    rw [bind_apply]
    obtain ⟨f, hwritten⟩ | ⟨name, hplace, hwritten⟩ :=
      writeFile_cases path (definitionText (some 2) d ++ "\n") ((w.showing first).showing second)
    · rw [hwritten]
      exact .inr ⟨rfl, .inr fun h => by cases h⟩
    · have hsame : ((w.showing first).showing second).place path = w.place path :=
        Workspace.place_congr (v := (w.showing first).showing second) (w := w) rfl rfl path
      rw [hsame] at hplace
      rw [hwritten]
      exact .inl ⟨path, name, rfl, hplace, rfl, rfl⟩

theorem exit_eq_ok_iff (m : Job Unit) (code : Nat) (w : Workspace) :
    ((m >>= fun _ => (pure code : Job Nat)) w).1 = .ok code ↔ (m w).1 = .ok () := by
  rw [bind_apply]
  cases m w with
  | mk result v =>
    cases result with
    | error f => exact iff_of_false nofun nofun
    | ok => exact iff_of_true rfl rfl

theorem runInspect_cases (envPrefix database table : String) (output : Option String) (w : Workspace) :
    (∃ path name d ids t, output.filter (· != "") = some path ∧ (w.place path).LeadsTo name ∧
        (Catalog.load w.server w.ids database table t).1 = .ok (d, ids) ∧
        (runInspect envPrefix database table output w).1 = .ok 0 ∧
        (runInspect envPrefix database table output w).2.files =
          (w.setFile name (definitionText (some 2) d ++ "\n")).files) ∨
      (runInspect envPrefix database table output w).2.files = w.files ∧
        (output.filter (· != "") = none ∨
          (runInspect envPrefix database table output w).1 ≠ .ok 0) := by
  unfold runInspect
  rw [bind_apply, attempt_apply]
  obtain ⟨f, hopen⟩ | ⟨url, hopen⟩ := openClient_cases none envPrefix none w
  · rw [hopen]
    dsimp only
    split
    · obtain ⟨shown, hshown⟩ := (prints_printFailure _ f _).exits (exits_pure 1) w
      rw [printError, hshown]
      exact .inr ⟨rfl, .inr nofun⟩
    · exact .inr ⟨rfl, .inr nofun⟩
  · rw [hopen]
    dsimp only
    rw [bind_apply, attempt_apply]
    obtain ⟨f, t, hload⟩ | ⟨d, ids, t, hcatalog, hload⟩ :=
      loadFromServer_cases database table { w with traffic := w.traffic.opening url }
    · rw [hload]
      dsimp only
      split
      · obtain ⟨shown, hshown⟩ := (prints_printFailure _ f _).exits (exits_pure 1) _
        rw [printError, hshown]
        exact .inr ⟨rfl, .inr nofun⟩
      · obtain ⟨shown, hshown⟩ := (prints_printFailure _ f _).exits (exits_pure 1) _
        rw [printConnectionError, hshown]
        exact .inr ⟨rfl, .inr nofun⟩
    · rw [hload]
      dsimp only
      rw [bind_kept (f := Workspace.files) fun _ => keeps_pure 0, ne_eq, exit_eq_ok_iff]
      obtain ⟨path, name, hpath, hplace, hwritten⟩ | hkept :=
        printDefinition_cases database table output d { w with traffic := t, ids := ids }
      · rw [Workspace.place_congr (w := w) (by rfl) (by rfl)] at hplace
        exact .inl ⟨path, name, d, ids, _, hpath, hplace, hcatalog, hwritten⟩
      · exact .inr hkept

theorem keeps_executePlan (plan : Plan) (lockGuard force : Bool) :
    Keeps Workspace.files (executePlan plan lockGuard force) :=
  fun _ => rfl

theorem keeps_openClient (chosen : Option String) (envPrefix : String) (url : Option String) :
    Keeps Workspace.files (openClient chosen envPrefix url) := by
  intro w
  obtain ⟨f, h⟩ | ⟨u, h⟩ := openClient_cases chosen envPrefix url w <;> rw [h]

theorem keeps_pushConfirmed (envPrefix profile : String) (t : Target) (force : Bool) (plan : Plan) :
    Keeps Workspace.files (pushConfirmed envPrefix profile t force plan) := by
  unfold pushConfirmed
  refine keeps_get.bind fun w => ?_
  cases w.config with
  | error f =>
    cases f with
    | noConfig directory =>
      exact keeps_files ((keeps_printFailure _ _ _).bind fun _ => keeps_pure 1)
    | _ => exact keeps_throw _
  | ok config =>
    refine (keeps_attempt (keeps_openClient (some profile) envPrefix none)).bind fun result => ?_
    cases result with
    | error f => exact keeps_files ((keeps_printFailure _ _ _).bind fun _ => keeps_pure 1)
    | ok u =>
      refine (keeps_files (keeps_print _)).bind fun _ => ?_
      refine (keeps_files (keeps_print _)).bind fun _ => ?_
      refine (keeps_executePlan plan _ force).bind fun r => ?_
      exact keeps_files (keeps_printResult t force r)

theorem keeps_runPush (envPrefix : String) (t : Target) (confirm force : Bool) :
    Keeps Workspace.files (runPush envPrefix t confirm force) := by
  unfold runPush
  refine keeps_get.bind fun w => ?_
  cases w.activeName envPrefix with
  | error f =>
    exact keeps_files ((keeps_print _).bind fun _ => (keeps_print _).bind fun _ => keeps_pure 1)
  | ok profile =>
    refine (keeps_files (keeps_planOfFiles t)).bind fun plan? => ?_
    cases plan? with
    | none => exact keeps_pure 1
    | some plan =>
      dsimp only
      split
      · exact keeps_files ((keeps_printRaw _).bind fun _ => keeps_pure 0)
      · refine (keeps_files (keeps_print _)).bind fun _ => ?_
        refine (keeps_files (keeps_print _)).bind fun _ => ?_
        refine (keeps_files (prints_printPlan plan).keeps).bind fun _ => ?_
        split
        · exact keeps_files ((keeps_print _).bind fun _ => (keeps_print _).bind fun _ => keeps_pure 0)
        · exact keeps_pushConfirmed envPrefix profile t force plan

/-- All commands but these two leave the files as they are. -/
theorem keeps_run {i : Invocation} (hconnect : i.action ≠ .connect)
    (hinspect : ∀ database table output, i.action ≠ .inspect database table output) :
    Keeps Workspace.files (run i) := by
  unfold run
  cases haction : i.action with
  | connect => exact absurd haction hconnect
  | inspect database table output => exact absurd haction (hinspect database table output)
  | push t confirm force => exact keeps_runPush i.envPrefix t confirm force
  | plan t => exact keeps_files (keeps_runPlan t)
  | status => exact keeps_files keeps_runStatus
  | profiles => exact keeps_files keeps_runProfiles

end Command

end TableDraft
