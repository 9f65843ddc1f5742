import TableDraft.Proofs.Catalog.Columns
import TableDraft.Proofs.Command.Clients
import TableDraft.Proofs.Command.Files
import TableDraft.Proofs.Definition.Written

namespace TableDraft
open TableDraft.Json TableDraft.Number

namespace Command

theorem definitionText_toList (indent : Option Nat) (d : Definition) :
    ∃ layout : Layout, layout.IsBlank ∧ layout.NoReturn ∧
      (definitionText indent d).toList = token layout 0 d.value := by
  cases indent with
  | none =>
    exact ⟨_, Layout.compact_isBlank, Layout.compact_noReturn, String.toList_ofList⟩
  | some n =>
    exact ⟨_, Layout.indented_isBlank n, Layout.indented_noReturn n, String.toList_ofList⟩

/-- A definition that is read and written is read again as it was. -/
theorem definitionOf_definitionText {d : Definition} (h : d.IsReadable) (indent : Option Nat)
    {after : String} (hafter : after.toList.all isSpace = true) (ids : IdSupply) :
    definitionOf ids (definitionText indent d ++ after) = (.good d, ids) := by
  obtain ⟨layout, hblank, -, htoken⟩ := definitionText_toList indent d
  have hread : document? (definitionText indent d ++ after) = some d.value := by
    rw [document?, String.toList_append, htoken]
    exact read?_token hblank (by decide) (Definition.isPlain_value h 196) (List.all_eq_true.1 hafter)
  rw [definitionOf, hread]
  exact Definition.check_value h ids

theorem isReadable_of_definitionOf {ids : IdSupply} {text : String} {d : Definition}
    (h : (definitionOf ids text).1 = .good d) : d.IsReadable := by
  unfold definitionOf at h
  cases hv : document? text with
  | none =>
    rw [hv] at h
    cases h
  | some v =>
    rw [hv] at h
    exact Definition.isReadable_of_check (isShort_of_document? hv) h

/-- The text of a written definition is read from its file. -/
theorem definitionFile_writeFile {d : Definition} (h : d.IsReadable) {path : String}
    {w w' : Workspace} (hpath : ¬ (w.place path).LeadsTo nullFile)
    (hwritten : writeFile path (definitionText (some 2) d ++ "\n") w = (.ok (), w')) :
    definitionFile w' path = .ok (definitionText (some 2) d ++ "\n") := by
  obtain ⟨f, hfailed⟩ | ⟨name, hplace, hset⟩ :=
    writeFile_cases path (definitionText (some 2) d ++ "\n") w
  · rw [hfailed] at hwritten
    cases hwritten
  · rw [hset] at hwritten
    obtain ⟨-, rfl⟩ := Prod.mk.inj hwritten
    have hname : name ≠ nullFile := by
      rintro rfl
      exact hpath hplace
    have hreturn : '\r' ∉ (definitionText (some 2) d ++ "\n").toList := by
      obtain ⟨layout, -, hlayout, htoken⟩ := definitionText_toList (some 2) d
      rw [String.toList_append, htoken, List.mem_append, not_or]
      exact ⟨return_not_mem_token hlayout (Definition.isPlain_value h 0) 0, by decide⟩
    rw [definitionFile_setFile hname hplace, readable_eq_self hreturn]

theorem loadDefinition_of_definitionFile {d : Definition} (h : d.IsReadable) {path : String}
    {w : Workspace} (hfile : definitionFile w path = .ok (definitionText (some 2) d ++ "\n")) :
    loadDefinition path w = (.ok d, w) := by
  rw [loadDefinition_apply, hfile]
  dsimp only
  rw [definitionOf_definitionText h (some 2) (by decide)]
  rfl

theorem loadFromServer_cases (database table : String) (w : Workspace) :
    (∃ f t, loadFromServer database table w = (.error f, { w with traffic := t })) ∨
      ∃ d ids t, (Catalog.load w.server w.ids database table w.traffic).1 = .ok (d, ids) ∧
        loadFromServer database table w = (.ok d, { w with traffic := t, ids }) := by
  have hserver : Job.onServer (fun s => finallyDo (Catalog.load s w.ids database table) Server.close)
      w = ((Catalog.load w.server w.ids database table w.traffic).1, { w with traffic :=
        { (Catalog.load w.server w.ids database table w.traffic).2 with closed :=
          (Catalog.load w.server w.ids database table w.traffic).2.closed + 1 } }) := by
    unfold Job.onServer
    dsimp only
    rw [finallyDo_close]
  unfold loadFromServer
  rw [get_bind, bind_apply, hserver]
  cases (Catalog.load w.server w.ids database table w.traffic).1 with
  | error f => exact .inl ⟨f, _, rfl⟩
  | ok p => exact .inr ⟨p.1, p.2, _, rfl, rfl⟩

/-- A definition is written between things that are printed. -/
theorem writeFile_of_printDefinition {database table path : String} {d : Definition}
    {w w' : Workspace} (hpath : path ≠ "")
    (h : printDefinition database table (some path) d w = (.ok (), w')) :
    ∃ u u' shown, u.world = w.world ∧
      writeFile path (definitionText (some 2) d ++ "\n") u = (.ok (), u') ∧ w' = u'.showing shown := by
  unfold printDefinition at h
  obtain ⟨first, hfirst⟩ := (Job.prints_printEvent _).bind_apply _ w
  obtain ⟨second, hsecond⟩ := (Job.prints_printEvent _).bind_apply _ (w.showing first)
  rw [hfirst, Job.print, hsecond] at h
  have houtput : (some path).filter (· != "") = some path := by
    rw [Option.filter_some, bne_iff_ne.2 hpath]
    rfl
  rw [houtput] at h
  dsimp only at h
  obtain ⟨⟨⟩, u', hwritten, h⟩ := bind_apply_eq_ok.1 h
  obtain ⟨third, hthird⟩ := (Job.prints_printEvent _).bind_apply _ u'
  rw [Job.print, hthird] at h
  obtain ⟨fourth, hfourth⟩ := Job.prints_printEvent _ (u'.showing third)
  refine ⟨(w.showing first).showing second, u', third ++ fourth, rfl, hwritten, ?_⟩
  rw [Workspace.showing_append]
  exact (congrArg Prod.snd (hfourth.symm.trans h)).symm

/-- What was inspected is in the file that it was written to. -/
theorem definitionFile_runInspect {envPrefix database table path : String} {w w' : Workspace}
    (hpath : path ≠ "") (hfile : ¬ (w.place path).LeadsTo nullFile)
    (h : runInspect envPrefix database table (some path) w = (.ok 0, w')) :
    ∃ d ids t, (Catalog.load w.server w.ids database table t).1 = .ok (d, ids) ∧
      (d.IsReadable → definitionFile w' path = .ok (definitionText (some 2) d ++ "\n")) := by
  have hfailure (f : Failure) (before after : String) (v : Workspace) :
      (do printFailure before f after; pure 1 : Job Nat) v ≠ (.ok 0, w') := by
    obtain ⟨shown, hshown⟩ := (prints_printFailure before f after).bind_apply (fun _ => pure 1) v
    rw [hshown]
    nofun
  -- with the code 0 nothing has failed, so the file was written last
  unfold runInspect at h
  rw [bind_apply, Job.attempt_apply] at h
  obtain ⟨f, hopen⟩ | ⟨url, hopen⟩ := openClient_cases none envPrefix none w
  · rw [hopen] at h
    dsimp only at h
    split at h
    · exact absurd h (hfailure f _ _ w)
    · cases h
  · rw [hopen] at h
    dsimp only at h
    rw [bind_apply, Job.attempt_apply] at h
    obtain ⟨f, t, hload⟩ | ⟨d, ids, t, hcatalog, hload⟩ :=
      loadFromServer_cases database table { w with traffic := w.traffic.opening url }
    · rw [hload] at h
      dsimp only at h
      split at h <;> exact absurd h (hfailure f _ _ _)
    · rw [hload] at h
      dsimp only at h
      obtain ⟨⟨⟩, v, hprinted, h⟩ := bind_apply_eq_ok.1 h
      obtain rfl : v = w' := congrArg Prod.snd h
      obtain ⟨u, u', shown, hu, hwritten, rfl⟩ := writeFile_of_printDefinition hpath hprinted
      refine ⟨d, ids, _, hcatalog, fun hd => ?_⟩
      have hplace : ¬ (u.place path).LeadsTo nullFile := by
        have hfiles : u.files = w.files := (congrArg Workspace.files hu :)
        have hdirectories : u.directories = w.directories := (congrArg Workspace.directories hu :)
        rwa [Workspace.place_congr hfiles hdirectories]
      rw [definitionFile_congr (v := u'.showing shown) (w := u') rfl rfl,
        definitionFile_writeFile hd hplace hwritten]

/-- Definitions come back from what is written for them. A text that is good for a definition may be
replaced by what is written for it, compact or indented, and no ids are used up then. And what was
inspected is loaded as it was, by any command that finds the file as it was written. -/
theorem definition_rereads :
    (∀ (ids : IdSupply) (text : String) (d : Definition), (definitionOf ids text).1 = .good d →
      ∀ (indent : Option Nat) (ids' : IdSupply),
        definitionOf ids' (definitionText indent d) = (.good d, ids')) ∧
    (∀ (envPrefix database table path : String) (w w' : Workspace), path ≠ "" →
      ¬ (w.place path).LeadsTo nullFile →
      (∀ rows, w.server.rows .columns = .ok rows → ∀ row ∈ rows, row.IsShort digitLimit) →
      run ⟨envPrefix, .inspect database table (some path)⟩ w = (.ok 0, w') →
      ∃ d ids t, (Catalog.load w.server w.ids database table t).1 = .ok (d, ids) ∧
        ∀ v : Workspace, v.files = w'.files → v.directories = w'.directories →
          loadDefinition path v = (.ok d, v)) := by
  refine ⟨fun ids text d h indent ids' => ?_, ?_⟩
  · have hnothing : "".toList.all isSpace = true := by decide
    have hread := definitionOf_definitionText (isReadable_of_definitionOf h) indent hnothing ids'
    rwa [String.append_empty] at hread
  · intro envPrefix database table path w w' hpath hfile hserver hrun
    obtain ⟨d, ids, t, hload, hwritten⟩ := definitionFile_runInspect hpath hfile hrun
    have hd := Catalog.isReadable_of_load hserver hload
    refine ⟨d, ids, t, hload, fun v hfiles hdirectories => ?_⟩
    apply loadDefinition_of_definitionFile hd
    rw [definitionFile_congr hfiles hdirectories, hwritten hd]

/-- A text with an escaped name, and a column of ten characters that is inspected. -/
theorem definition_rereads_escaped :
    let ids : IdSupply := ⟨fun n => "gen" ++ toString n, 0⟩
    let text := "\x7b\"columns\":[\x7b\"id\":-1,\"name\":\"\\u000b\\\"\",\"data_type\":\"INT\"\x7d]\x7d"
    let d : Definition := ⟨[⟨.number (-1), "\x0b\"", some "\x0b\"", "INT", none, none, true, false,
      false, false⟩], [], [], []⟩
    let row : Value :=
      .object [("name", .text "a"), ("data_type", .text "char"), ("char_length", .int 10)]
    let s : Server :=
      ⟨fun source => .ok (if source = .columns then [row] else []), [], .ok "8.0"⟩
    let w : Workspace := ⟨"/", [("db.toml", "profiles.p.url='u'")], [], [("DB_PROFILE", "p")], s,
      Traffic.none, ids, []⟩
    let outcome := run ⟨"", .inspect "d" "t" (some "t.json")⟩ w
    (definitionOf ids text).1 = .good d ∧
      definitionOf ids (definitionText none d) = (.good d, ids) ∧
      definitionOf ids (definitionText (some 2) d) = (.good d, ids) ∧ outcome.1 = .ok 0 ∧
      ∃ d' ids' t, (Catalog.load s ids "d" "t" t).1 = .ok (d', ids') ∧
        loadDefinition "t.json" outcome.2 = (.ok d', outcome.2) := by
  intro ids text d row s w outcome
  obtain ⟨htext, hinspect⟩ := definition_rereads
  have hgood : (definitionOf ids text).1 = .good d := by decide +kernel
  have hagain := htext ids text d hgood
  have hcode : outcome.1 = .ok 0 := by decide +kernel
  have hplace : w.place "t.json" = .vacant "t.json" := by decide +kernel
  have hfile : ¬ (w.place "t.json").LeadsTo nullFile := by
    rw [hplace]
    rintro (⟨old, h⟩ | h)
    · cases h
    · exact absurd h (by decide)
  have hshort : ∀ rows, w.server.rows .columns = .ok rows → ∀ v ∈ rows, v.IsShort digitLimit := by
    rintro rows ⟨⟩ v hv
    rw [List.mem_singleton.1 hv]
    have hten : 10 < digitBound digitLimit :=
      (by decide : 10 < digitBound 2).trans_le (digitBound_mono (by decide))
    refine .object ?_
    simp only [List.forall_mem_cons]
    exact ⟨.text _, .text _, .int hten, List.forall_mem_nil _⟩
  obtain ⟨d', ids', t, hload, hloaded⟩ :=
    hinspect "" "d" "t" "t.json" w outcome.2 (by decide) hfile hshort (Prod.ext hcode rfl)
  exact ⟨hgood, hagain none ids, hagain (some 2) ids, hcode, d', ids', t, hload,
    hloaded outcome.2 rfl rfl⟩

end Command

end TableDraft
