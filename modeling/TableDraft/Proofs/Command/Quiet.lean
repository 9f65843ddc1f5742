import TableDraft.Command.Run
import TableDraft.Proofs.Keeps

namespace TableDraft

/-- A workspace but for what was printed and the ids that are left. -/
def Workspace.world (w : Workspace) : Workspace :=
  { w with ids := ⟨fun _ => "", 0⟩, printed := [] }

/-- A workspace with more printed. -/
def Workspace.showing (w : Workspace) (l : List Event) : Workspace :=
  { w with printed := w.printed ++ l }

theorem Workspace.showing_world (w : Workspace) (l : List Event) : (w.showing l).world = w.world :=
  rfl

theorem Workspace.showing_append (w : Workspace) (l m : List Event) :
    w.showing (l ++ m) = (w.showing l).showing m := by
  rw [showing, showing, showing, List.append_assoc]

theorem Workspace.traffic_of_world {v w : Workspace} (h : v.world = w.world) :
    v.traffic = w.traffic :=
  (congrArg Workspace.traffic h :)

theorem Workspace.config_of_world {v w : Workspace} (h : v.world = w.world) :
    v.config = w.config :=
  (congrArg Workspace.config h :)

/-- What a path leads to depends on files and directories only. -/
theorem Workspace.place_congr {v w : Workspace} (hfiles : v.files = w.files)
    (hdirectories : v.directories = w.directories) (path : String) :
    v.place path = w.place path := by
  have hwalk : ∀ parts s, v.walk s parts = w.walk s parts := by
    intro parts
    induction parts with
    | nil => exact fun _ => rfl
    | cons part rest ih =>
      intro s
      simp only [walk, hasDirectory, file?, hfiles, hdirectories, ih]
      rfl
  rw [place, place, hwalk]

namespace Job

variable {m : Job α} {f : Workspace → β}

/-- Work that prints, and does nothing else. -/
def Prints (m : Job Unit) : Prop :=
  ∀ w, ∃ shown, m w = (.ok (), w.showing shown)

theorem prints_printEvent (e : Event) : Prints (printEvent e) :=
  fun _ => ⟨[e], rfl⟩

theorem prints_pure : Prints (pure ()) :=
  fun w => ⟨[], by rw [Workspace.showing, List.append_nil]; rfl⟩

/-- What comes after printing starts with all but the printed as it was. -/
theorem Prints.bind_apply {m : Job Unit} (h : Prints m) (k : Unit → Job α) (w : Workspace) :
    ∃ shown, (m >>= k) w = k () (w.showing shown) := by
  obtain ⟨shown, hm⟩ := h w
  refine ⟨shown, ?_⟩
  rw [TableDraft.bind_apply, hm]

theorem Prints.bind {m m' : Job Unit} (h : Prints m) (h' : Prints m') :
    Prints (m >>= fun _ => m') := by
  intro w
  obtain ⟨shown, hm⟩ := h.bind_apply (fun _ => m') w
  obtain ⟨shown', hm'⟩ := h' (w.showing shown)
  refine ⟨shown ++ shown', ?_⟩
  rw [hm, hm', Workspace.showing_append]

theorem Prints.keeps {m : Job Unit} (h : Prints m) : Keeps Workspace.world m := by
  intro w
  obtain ⟨shown, hm⟩ := h w
  rw [hm, w.showing_world]

theorem keeps_printEvent (e : Event) : Keeps Workspace.world (printEvent e) :=
  (prints_printEvent e).keeps

theorem keeps_print (s : String) : Keeps Workspace.world (print s) :=
  keeps_printEvent _

theorem keeps_printRaw (s : String) : Keeps Workspace.world (printRaw s) :=
  keeps_printEvent _

theorem keeps_printStyled (s style : String) : Keeps Workspace.world (printStyled s style) :=
  keeps_printEvent _

theorem ofExcept_apply (e : Except Failure α) (w : Workspace) : ofExcept e w = (e, w) := by
  cases e <;> rfl

theorem keeps_ofExcept (e : Except Failure α) : Keeps f (ofExcept e) := by
  intro w
  rw [ofExcept_apply]

theorem attempt_apply (m : Job α) (w : Workspace) : m.attempt w = (.ok (m w).1, (m w).2) := rfl

theorem keeps_attempt (h : Keeps f m) : Keeps f m.attempt := h

end Job

/-- There is a file of this name, or it may be made. -/
def Place.LeadsTo (p : Place) (name : String) : Prop :=
  (∃ old, p = .file name old) ∨ p = .vacant name

theorem Place.LeadsTo.unique {p : Place} {name other : String} (h : p.LeadsTo name)
    (h' : p.LeadsTo other) : name = other := by
  obtain ⟨old, rfl⟩ | rfl := h <;> obtain ⟨old', h'⟩ | h' := h' <;> cases h' <;> rfl

/-- Writing fails and does nothing, or it sets the file that the path leads to. -/
theorem writeFile_cases (path text : String) (w : Workspace) :
    (∃ f, writeFile path text w = (.error f, w)) ∨
      ∃ name, (w.place path).LeadsTo name ∧
        writeFile path text w = (.ok (), w.setFile name text) := by
  unfold writeFile
  rw [get_bind]
  cases w.place path with
  | file name old => exact .inr ⟨name, .inl ⟨old, rfl⟩, rfl⟩
  | vacant name => exact .inr ⟨name, .inr rfl, rfl⟩
  | _ => exact .inl ⟨_, rfl⟩

theorem keeps_writeFile (path text : String) : Keeps Workspace.traffic (writeFile path text) := by
  intro w
  obtain ⟨f, h⟩ | ⟨name, -, h⟩ := writeFile_cases path text w
  · rw [h]
  · rw [h]
    rfl

namespace Command
open Job

theorem loadDefinition_apply (path : String) (w : Workspace) : loadDefinition path w =
    match definitionFile w path with
    | .ok text => ((definitionOf w.ids text).1.orFail .definition,
        { w with ids := (definitionOf w.ids text).2 })
    | .error f => (.error f, w) := by
  unfold loadDefinition
  rw [bind_apply]
  show (Job.ofExcept (definitionFile w path) >>= _ : Job Definition) w = _
  rw [bind_apply, ofExcept_apply]
  cases definitionFile w path with
  | error f => rfl
  | ok text => exact ofExcept_apply _ _

theorem definitionFile_congr {v w : Workspace} (hfiles : v.files = w.files)
    (hdirectories : v.directories = w.directories) (path : String) :
    definitionFile v path = definitionFile w path := by
  rw [definitionFile, definitionFile, Workspace.place_congr hfiles hdirectories]

theorem keeps_loadDefinition (path : String) : Keeps Workspace.world (loadDefinition path) := by
  intro w
  rw [loadDefinition_apply]
  cases definitionFile w path <;> rfl

theorem prints_printFailure (before : String) (f : Failure) (after : String) :
    Prints (printFailure before f after) := by
  unfold printFailure
  split <;> exact prints_printEvent _

theorem keeps_printFailure (before : String) (f : Failure) (after : String) :
    Keeps Workspace.world (printFailure before f after) :=
  (prints_printFailure before f after).keeps

theorem prints_printPlan (p : Plan) : Prints (printPlan p) := by
  unfold printPlan
  refine (prints_printEvent _).bind ?_
  split
  · exact (prints_printEvent _).bind (prints_printEvent _)
  · exact prints_pure

/-- Both definition files of a target load, one after the other, and the plan leads from the one to
the other. -/
def Plans (w : Workspace) (t : Target) (plan : Plan) : Prop :=
  ∃ snapshot working w₁ w₂, loadDefinition t.snapshot w = (.ok snapshot, w₁) ∧
    loadDefinition t.working w₁ = (.ok working, w₂) ∧
    plan = Plan.compile t.database t.table snapshot working

theorem keeps_planOfFiles (t : Target) : Keeps Workspace.world (planOfFiles t) := by
  unfold planOfFiles
  refine Keeps.bind (keeps_attempt ?_) fun result => ?_
  · exact (keeps_loadDefinition _).bind fun _ => (keeps_loadDefinition _).bind fun _ => keeps_pure _
  · cases result with
    | ok plan => exact keeps_pure _
    | error f =>
      dsimp only
      split
      · exact keeps_throw f
      · exact (keeps_printFailure _ _ _).bind fun _ => keeps_pure _

theorem plans_of_planOfFiles {t : Target} {w w' : Workspace} {plan : Plan}
    (h : planOfFiles t w = (.ok (some plan), w')) : Plans w t plan := by
  unfold planOfFiles at h
  obtain ⟨result, u, hresult, h⟩ := bind_apply_eq_ok.1 h
  cases result with
  | error f =>
    dsimp only at h
    split at h
    · cases h
    · obtain ⟨-, u', -, h⟩ := bind_apply_eq_ok.1 h
      cases h
  | ok p =>
    obtain ⟨rfl, rfl⟩ : p = plan ∧ u = w' := by
      cases h
      exact ⟨rfl, rfl⟩
    have hplan : (do
        let snapshot ← loadDefinition t.snapshot
        let working ← loadDefinition t.working
        pure (Plan.compile t.database t.table snapshot working) : Job Plan) w = (.ok p, u) := by
      rw [attempt_apply] at hresult
      obtain ⟨hp, hu⟩ := Prod.mk.inj hresult
      exact Prod.ext (Except.ok.inj hp) hu
    obtain ⟨snapshot, w₁, hsnapshot, h⟩ := bind_apply_eq_ok.1 hplan
    obtain ⟨working, w₂, hworking, h⟩ := bind_apply_eq_ok.1 h
    cases h
    exact ⟨snapshot, working, w₁, _, hsnapshot, hworking, rfl⟩

end Command

end TableDraft
