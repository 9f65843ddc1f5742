import TableDraft.Proofs.Command.Lock
import TableDraft.Proofs.Text.Trim

namespace TableDraft
open TableDraft.Command TableDraft.Text

/-- What is asked for: a command line, or a connection to the server of a profile, or of the active
one. -/
inductive Call where
  | command (args : List String)
  | connect (chosen : Option String) (envPrefix : String)

namespace Call

def after (c : Call) (w : Workspace) : Workspace :=
  match c with
  | .command args => (runLine args w).2
  | .connect chosen envPrefix => (TableDraft.connect chosen envPrefix w).2

/-- A connection is made, and answered with the name of the profile. A command line ends with the code 0
then, and the profile is the active one. -/
def Connects (c : Call) (w : Workspace) (name : String) : Prop :=
  match c with
  | .command args => ∃ envPrefix, readRequest args = .run ⟨envPrefix, .connect⟩ ∧
      (runLine args w).1 = .ok 0 ∧ w.activeName envPrefix = .ok name
  | .connect chosen envPrefix => ∃ a, (TableDraft.connect chosen envPrefix w).1 = .ok a ∧
      a.success = true ∧ a.profileName = some name

/-- A connection is asked for, and none is made. -/
def Fails (c : Call) (w : Workspace) : Prop :=
  match c with
  | .command args => (∃ envPrefix, readRequest args = .run ⟨envPrefix, .connect⟩) ∧
      (runLine args w).1 ≠ .ok 0
  | .connect chosen envPrefix => Connection.NotMade (TableDraft.connect chosen envPrefix w).1

/-- A definition is inspected and written to a path that leads to the lock, as far as `Workspace.place`
follows it. -/
def Overwrites (c : Call) (w : Workspace) (text : String) : Prop :=
  match c with
  | .command args => ∃ envPrefix database table path d ids t,
      readRequest args = .run ⟨envPrefix, .inspect database table (some path)⟩ ∧ path ≠ "" ∧
      (w.place path).LeadsTo lockFile ∧ (runLine args w).1 = .ok 0 ∧
      (Catalog.load w.server w.ids database table t).1 = .ok (d, ids) ∧
      text = definitionText (some 2) d ++ "\n"
  | .connect .. => False

/-- A text that a call leaves in the lock. -/
def Leaves (c : Call) (w : Workspace) (text : String) : Prop :=
  c.Connects w text ∨ c.Overwrites w text

/-- What comes of a call, and of the lock by it. -/
inductive Outcome (c : Call) (w : Workspace) : Prop
  | made (name : String) (connects : c.Connects w name) (unique : ∀ other, c.Connects w other → other = name)
    (succeeds : ¬c.Fails w) (lock : (c.after w).file? lockFile = some name)
  | written (text : String) (overwrites : c.Overwrites w text) (unconnected : ∀ name, ¬c.Connects w name)
    (succeeds : ¬c.Fails w) (lock : (c.after w).file? lockFile = some text)
  | kept (leaves : ∀ text, ¬c.Leaves w text) (lock : (c.after w).file? lockFile = w.file? lockFile)

end Call

theorem lockFile_ne_nullFile : lockFile ≠ nullFile := by
  decide

namespace Call

theorem outcome_connect (chosen : Option String) (envPrefix : String) (w : Workspace) :
    (Call.connect chosen envPrefix).Outcome w := by
  obtain ⟨name, version, t, -, hmade⟩ | ⟨hnot, hfiles⟩ := connect_cases chosen envPrefix w
  · have hresult := congrArg Prod.fst hmade
    refine .made name ⟨_, hresult, rfl, rfl⟩ ?_ ?_ ?_
    · rintro other ⟨a, ha, -, hother⟩
      rw [hresult] at ha
      cases ha
      exact (Option.some.inj hother).symm
    · intro hfails
      exact Bool.noConfusion (hfails _ hresult)
    · rw [after, hmade]
      exact Workspace.file?_setFile _ name lockFile_ne_nullFile
  · refine .kept ?_ (Workspace.file?_congr hfiles lockFile)
    rintro text (⟨a, ha, hsuccess, -⟩ | hnone)
    · exact absurd hsuccess (by rw [hnot a ha]; decide)
    · exact hnone

section
variable {args : List String} {i : Invocation} (hrequest : readRequest args = .run i)
include hrequest

theorem after_command (w : Workspace) : (Call.command args).after w = (run i w).2 := by
  rw [after, runLine, hrequest]

theorem exit_command (w : Workspace) : (runLine args w).1 = (run i w).1 := by
  rw [runLine, hrequest]

end

/-- A command line that asks neither for a connection nor for an inspection leaves nothing. -/
theorem outcome_unrelated {args : List String} {w : Workspace}
    (hrequest : ∀ i, readRequest args = .run i → i.action ≠ .connect ∧
      ∀ database table output, i.action ≠ .inspect database table output)
    (hfiles : ((Call.command args).after w).files = w.files) : (Call.command args).Outcome w := by
  refine .kept ?_ (Workspace.file?_congr hfiles lockFile)
  rintro text (⟨envPrefix, h, -⟩ | ⟨envPrefix, database, table, path, -, -, -, h, -⟩)
  · exact (hrequest _ h).1 rfl
  · exact (hrequest _ h).2 database table (some path) rfl

theorem outcome_runConnect {args : List String} {envPrefix : String}
    (hrequest : readRequest args = .run ⟨envPrefix, .connect⟩) (w : Workspace) :
    (Call.command args).Outcome w := by
  have hafter := after_command hrequest w
  have hexit := exit_command hrequest w
  obtain ⟨name, hname, hcode, hfiles⟩ | ⟨hcode, hfiles⟩ := runConnect_cases envPrefix w
  · refine .made name ⟨envPrefix, hrequest, hexit.trans hcode, hname⟩ ?_ ?_ ?_
    · rintro other ⟨envPrefix', h, -, hother⟩
      rw [hrequest] at h
      cases h
      exact Except.ok.inj (hother.symm.trans hname)
    · exact fun hfails => hfails.2 (hexit.trans hcode)
    · rw [hafter]
      exact Workspace.file?_of_set hfiles lockFile_ne_nullFile
  · refine .kept ?_ ?_
    · rintro text (⟨_, -, h, -⟩ | ⟨_, _, _, _, _, _, _, h, -⟩)
      · exact hcode (hexit.symm.trans h)
      · rw [hrequest] at h
        cases h
    · rw [hafter]
      exact Workspace.file?_congr hfiles lockFile

section
variable {args : List String} {envPrefix database table text : String} {output : Option String}
  {w : Workspace}
  (hrequest : readRequest args = .run ⟨envPrefix, .inspect database table output⟩)
include hrequest

theorem path_of_overwrites (h : (Call.command args).Overwrites w text) :
    ∃ path, output.filter (· != "") = some path ∧ (w.place path).LeadsTo lockFile ∧
      (runLine args w).1 = .ok 0 := by
  obtain ⟨_, _, _, path, _, _, _, hinspect, hne, hplace, hcode, -⟩ := h
  rw [hrequest] at hinspect
  cases hinspect
  exact ⟨path, by rw [Option.filter_some, bne_iff_ne.2 hne]; rfl, hplace, hcode⟩

theorem not_connects_of_inspect (name : String) : ¬(Call.command args).Connects w name := by
  rintro ⟨envPrefix', h, -⟩
  rw [hrequest] at h
  cases h

theorem not_fails_of_inspect : ¬(Call.command args).Fails w := by
  rintro ⟨⟨envPrefix', h⟩, -⟩
  rw [hrequest] at h
  cases h

theorem outcome_runInspect (w : Workspace) : (Call.command args).Outcome w := by
  have hafter := after_command hrequest w
  have hexit := exit_command hrequest w
  obtain ⟨path, name, d, ids, t, hpath, hplace, hload, hcode, hfiles⟩ | ⟨hfiles, hnot⟩ :=
    runInspect_cases envPrefix database table output w
  · by_cases hname : lockFile = name
    · obtain ⟨houtput, hne⟩ := Option.filter_eq_some_iff.1 hpath
      subst hname
      refine .written (definitionText (some 2) d ++ "\n") ?_ (not_connects_of_inspect hrequest)
        (not_fails_of_inspect hrequest) ?_
      · exact ⟨envPrefix, database, table, path, d, ids, t, houtput ▸ hrequest, bne_iff_ne.1 hne,
          hplace, hexit.trans hcode, hload, rfl⟩
      · rw [hafter]
        exact Workspace.file?_of_set hfiles lockFile_ne_nullFile
    · -- the path leads to one file only
      refine .kept ?_ ?_
      · rintro text (hconnects | hoverwrites)
        · exact not_connects_of_inspect hrequest text hconnects
        · obtain ⟨path', hpath', hplace', -⟩ := path_of_overwrites hrequest hoverwrites
          obtain rfl : path' = path := Option.some.inj (hpath'.symm.trans hpath)
          exact hname (hplace'.unique hplace)
      · rw [hafter]
        exact Workspace.file?_of_set_of_ne hfiles hname
  · refine .kept ?_ ?_
    · rintro text (hconnects | hoverwrites)
      · exact not_connects_of_inspect hrequest text hconnects
      · obtain ⟨path, hpath, -, hcode⟩ := path_of_overwrites hrequest hoverwrites
        rw [hpath] at hnot
        exact hnot.elim nofun fun hfailed => hfailed (hexit.symm.trans hcode)
    · rw [hafter]
      exact Workspace.file?_congr hfiles lockFile

end

theorem outcome_command (args : List String) (w : Workspace) : (Call.command args).Outcome w := by
  cases hrequest : readRequest args with
  | run i =>
    obtain ⟨envPrefix, action⟩ := i
    cases action with
    | connect => exact outcome_runConnect hrequest w
    | inspect database table output => exact outcome_runInspect hrequest w
    | _ =>
      refine outcome_unrelated (fun i h => ?_) ?_
      · rw [hrequest] at h
        cases h
        simp
      · rw [after_command hrequest]
        exact keeps_run (by simp) (by simp) w
  | _ =>
    refine outcome_unrelated (fun i h => ?_) ?_
    · rw [hrequest] at h
      cases h
    · rw [after, runLine, hrequest]
      rfl

theorem outcome (c : Call) (w : Workspace) : c.Outcome w := by
  cases c with
  | command args => exact outcome_command args w
  | connect chosen envPrefix => exact outcome_connect chosen envPrefix w

theorem leaves_or_kept (c : Call) (w : Workspace) :
    (∃ text, c.Leaves w text ∧ (c.after w).file? lockFile = some text) ∨
      (∀ text, ¬c.Leaves w text) ∧ (c.after w).file? lockFile = w.file? lockFile := by
  cases c.outcome w with
  | made name connects unique succeeds lock => exact .inl ⟨name, .inl connects, lock⟩
  | written text overwrites unconnected succeeds lock => exact .inl ⟨text, .inr overwrites, lock⟩
  | kept leaves lock => exact .inr ⟨leaves, lock⟩

theorem lock_of_connects {c : Call} {w : Workspace} {name : String} (h : c.Connects w name) :
    (c.after w).file? lockFile = some name := by
  cases c.outcome w with
  | made name' connects unique succeeds lock => rw [lock, unique name h]
  | written text overwrites unconnected succeeds lock => exact absurd h (unconnected name)
  | kept leaves lock => exact absurd (.inl h) (leaves name)

theorem lock_of_fails {c : Call} {w : Workspace} (h : c.Fails w) :
    (c.after w).file? lockFile = w.file? lockFile := by
  cases c.outcome w with
  | made name connects unique succeeds lock => exact absurd h succeeds
  | written text overwrites unconnected succeeds lock => exact absurd h succeeds
  | kept leaves lock => exact lock

end Call

namespace Workspace

/-- The workspace with this text in the lock, or without a lock. -/
def withLock (w : Workspace) (lock : Option String) : Workspace :=
  match lock with
  | some text => w.setFile lockFile text
  | none => w.removeFile lockFile

theorem file?_withLock (w : Workspace) (lock : Option String) :
    (w.withLock lock).file? lockFile = lock := by
  cases lock with
  | some text => exact w.file?_setFile text lockFile_ne_nullFile
  | none =>
    refine (if_neg lockFile_ne_nullFile).trans (List.lookup_eq_none_iff.2 fun f hf => ?_)
    rw [bne_comm]
    exact (List.mem_filter.1 hf).2

/-- A name that reading a file does not change is the active one, where the environment names none. -/
theorem activeName_withLock {w : Workspace} {name envPrefix : String} (hne : name ≠ "")
    (htrimmed : Trimmed name.toList) (hreturn : '\r' ∉ name.toList)
    (hunset : ∀ e, w.environment.lookup (profileSetting envPrefix) = some e → e = "") :
    (w.withLock (some name)).activeName envPrefix = .ok name := by
  have hlock : (w.withLock (some name)).lock? = some name := by
    rw [lock?, file?_withLock, Option.map_some, readable_eq_self hreturn, trimmed,
      trim_eq_self htrimmed, String.ofList_toList]
  have hfrom : activeName.fromLock (w.withLock (some name)) envPrefix = .ok name := by
    rw [activeName.fromLock, hlock]
    exact if_neg hne
  have henvironment : (w.withLock (some name)).environment = w.environment := rfl
  rw [activeName, henvironment]
  cases hsetting : w.environment.lookup (profileSetting envPrefix) with
  | none => exact hfrom
  | some e => exact (if_pos (hunset e hsetting)).trans hfrom

end Workspace

/-- A call, with all that is there at the time but the lock. -/
structure Turn where
  surroundings : Workspace
  call : Call

namespace Turn

def start (t : Turn) (lock : Option String) : Workspace :=
  t.surroundings.withLock lock

/-- The lock after a turn. -/
def lock (t : Turn) (lock : Option String) : Option String :=
  (t.call.after (t.start lock)).file? lockFile

def Leaves (t : Turn) (lock : Option String) (text : String) : Prop :=
  t.call.Leaves (t.start lock) text

end Turn

def lockAfter (turns : List Turn) (lock : Option String) : Option String :=
  turns.foldl (fun lock t => t.lock lock) lock

/-- Turns that leave nothing in a lock of this content keep it. -/
def Untouched (turns : List Turn) (lock : Option String) : Prop :=
  ∀ t ∈ turns, ∀ text, ¬t.Leaves lock text

theorem Turn.leaves_or_kept (t : Turn) (lock : Option String) :
    (∃ text, t.Leaves lock text ∧ t.lock lock = some text) ∨
      (∀ text, ¬t.Leaves lock text) ∧ t.lock lock = lock := by
  have hcases := t.call.leaves_or_kept (t.start lock)
  rwa [Turn.start, Workspace.file?_withLock] at hcases

theorem lockAfter_of_untouched {turns : List Turn} {lock : Option String} (h : Untouched turns lock) :
    lockAfter turns lock = lock := by
  induction turns with
  | nil => rfl
  | cons t r ih =>
    obtain ⟨htouch, hr⟩ := List.forall_mem_cons.1 h
    obtain ⟨text, hleaves, -⟩ | ⟨-, hkept⟩ := t.leaves_or_kept lock
    · exact absurd hleaves (htouch text)
    · exact (congrArg (lockAfter r) hkept).trans (ih hr)

theorem lockAfter_append (before after : List Turn) (lock : Option String) :
    lockAfter (before ++ after) lock = lockAfter after (lockAfter before lock) :=
  List.foldl_append

theorem lockAfter_of_last {before after : List Turn} {t : Turn} {lock : Option String} {text : String}
    (hlock : t.lock (lockAfter before lock) = some text) (hafter : Untouched after (some text)) :
    lockAfter (before ++ t :: after) lock = some text := by
  rw [lockAfter_append, lockAfter, List.foldl_cons, hlock]
  exact lockAfter_of_untouched hafter

/-- No turn has left anything, or there is a last one that has. -/
theorem untouched_or_last (turns : List Turn) (lock : Option String) :
    Untouched turns lock ∨ ∃ before t after text, turns = before ++ t :: after ∧
      t.Leaves (lockAfter before lock) text ∧ t.lock (lockAfter before lock) = some text ∧
      Untouched after (some text) := by
  -- along the run: a new turn leaves something, or what holds of the turns before it holds with it
  induction turns using List.reverseRecOn with
  | nil => exact .inl (List.forall_mem_nil _)
  | append_singleton turns t ih =>
    obtain ⟨text, hleaves, hlock⟩ | ⟨hnone, -⟩ := t.leaves_or_kept (lockAfter turns lock)
    · exact .inr ⟨turns, t, [], text, rfl, hleaves, hlock, List.forall_mem_nil _⟩
    · have hextend {r : List Turn} {l : Option String} (hr : Untouched r l)
          (hsame : lockAfter turns lock = l) : Untouched (r ++ [t]) l := by
        refine List.forall_mem_append.2 ⟨hr, List.forall_mem_singleton.2 ?_⟩
        rwa [hsame] at hnone
      obtain huntouched | ⟨before, s, after, text, rfl, hleaves, hlock, hafter⟩ := ih
      · exact .inl (hextend huntouched (lockAfter_of_untouched huntouched))
      · refine .inr ⟨before, s, after ++ [t], text, by simp, hleaves, hlock, ?_⟩
        exact hextend hafter (lockAfter_of_last hlock hafter)

/-- What the lock holds after any run: what it held before it, or what the last turn that left
anything there has left. A connection that is not made leaves the lock as it was. The name that a
connection left is the active one, where the environment names none, until something else is left. -/
theorem lock_history (turns : List Turn) (lock : Option String) :
    (Untouched turns lock ∧ lockAfter turns lock = lock ∨
      ∃ before t after text, turns = before ++ t :: after ∧ t.Leaves (lockAfter before lock) text ∧
        Untouched after (some text) ∧ lockAfter turns lock = some text) ∧
    (∀ before t after, turns = before ++ t :: after → t.call.Fails (t.start (lockAfter before lock)) →
      lockAfter (before ++ [t]) lock = lockAfter before lock) ∧
    ∀ before t after name, turns = before ++ t :: after →
      t.call.Connects (t.start (lockAfter before lock)) name → Untouched after (some name) →
      name ≠ "" → Trimmed name.toList → '\r' ∉ name.toList →
      ∀ (w : Workspace) (envPrefix : String),
        (∀ e, w.environment.lookup (Workspace.profileSetting envPrefix) = some e → e = "") →
        (w.withLock (lockAfter turns lock)).activeName envPrefix = .ok name := by
  refine ⟨?_, ?_, ?_⟩
  · obtain huntouched | ⟨before, t, after, text, rfl, hleaves, hlock, hafter⟩ :=
      untouched_or_last turns lock
    · exact .inl ⟨huntouched, lockAfter_of_untouched huntouched⟩
    · exact .inr ⟨before, t, after, text, rfl, hleaves, hafter, lockAfter_of_last hlock hafter⟩
  · rintro before t after - hfails
    rw [lockAfter_append]
    exact (Call.lock_of_fails hfails).trans (Workspace.file?_withLock _ _)
  · rintro before t after name rfl hconnects hafter hne htrimmed hreturn w envPrefix hunset
    rw [lockAfter_of_last (Call.lock_of_connects hconnects) hafter]
    exact Workspace.activeName_withLock hne htrimmed hreturn hunset

/-- A connection to a profile, after which the server is lost: the next connection, to the profile that
the lock names, fails. -/
theorem lock_history_lost :
    let config := [("db.toml", "profiles.p.url='u'")]
    let ids : IdSupply := ⟨fun _ => "", 0⟩
    let reachable (version : Except String String) : Workspace :=
      ⟨"/", config, [], [], ⟨fun _ => .ok [], [], version⟩, Traffic.none, ids, []⟩
    let first : Turn := ⟨reachable (.ok "8.0"), .connect (some "p") ""⟩
    let second : Turn := ⟨reachable (.error "gone"), .command ["connect"]⟩
    first.call.Connects (first.start none) "p" ∧ second.call.Fails (second.start (some "p")) ∧
      lockAfter [first, second] none = some "p" ∧
      ((reachable (.ok "8.0")).withLock (lockAfter [first, second] none)).activeName "" = .ok "p" := by
  intro config ids reachable first second
  have hrequest : readRequest ["connect"] = .run ⟨"", .connect⟩ := by decide +kernel
  have hconnects : first.call.Connects (first.start none) "p" :=
    ⟨⟨true, some "p", some "8.0", none⟩, by decide +kernel, rfl, rfl⟩
  have hfirst : lockAfter [first] none = some "p" :=
    (Call.lock_of_connects hconnects :)
  have hexit : (runLine ["connect"] (second.start (some "p"))).1 ≠ .ok 0 := by decide +kernel
  have hfails : second.call.Fails (second.start (lockAfter [first] none)) := by
    rw [hfirst]
    exact ⟨⟨"", hrequest⟩, hexit⟩
  have huntouched : Untouched [second] (some "p") := by
    refine List.forall_mem_singleton.2 ?_
    rintro text (⟨_, -, h, -⟩ | ⟨_, _, _, _, _, _, _, h, -⟩)
    · exact hexit h
    · rw [hrequest] at h
      cases h
  have htrim : trim "p".toList = "p".toList := by decide
  have htrimmed : Trimmed "p".toList := htrim ▸ trim_trimmed _
  obtain ⟨-, hfailed, hactive⟩ := lock_history [first, second] none
  have hsecond := hfailed [first] second [] rfl hfails
  refine ⟨hconnects, hfirst ▸ hfails, hsecond.trans hfirst, ?_⟩
  exact hactive [] first [second] "p" rfl hconnects huntouched (by decide) htrimmed (by decide)
    _ "" nofun

/-- An inspection that is written to the lock changes it, and connects to nothing. -/
theorem lock_history_inspect :
    let row : Value := .object [("name", .text "a"), ("data_type", .text "int")]
    let s : Server := ⟨fun source => .ok (if source = .columns then [row] else []), [], .ok "8.0"⟩
    let w : Workspace := ⟨"/", [("db.toml", "profiles.p.url='u'")], [], [], s, Traffic.none,
      ⟨fun n => "gen" ++ toString n, 0⟩, []⟩
    let t : Turn := ⟨w, .command ["inspect", "--database", "d", "--table", "t", "--output",
      ".db-profile"]⟩
    lockAfter [t] (some "p") ≠ some "p" ∧ ∀ name, ¬t.call.Connects (t.start (some "p")) name := by
  intro row s w t
  refine ⟨by decide +kernel, ?_⟩
  rintro name ⟨envPrefix, h, -⟩
  have hrequest : readRequest ["inspect", "--database", "d", "--table", "t", "--output",
      ".db-profile"] = .run ⟨"", .inspect "d" "t" (some ".db-profile")⟩ := by decide +kernel
  rw [hrequest] at h
  cases h

end TableDraft
