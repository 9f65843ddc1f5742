import TableDraft.Proofs.Command.Quiet

namespace TableDraft

/-- At most one client is opened, and as many are closed. -/
def Traffic.ClosesAll (t t' : Traffic) : Prop :=
  ∃ n ≤ 1, t'.urls.length = t.urls.length + n ∧ t'.closed = t.closed + n

/-- No statement is sent, and every client is closed. -/
def Traffic.Settles (t t' : Traffic) : Prop :=
  t'.executed = t.executed ∧ t.ClosesAll t'

/-- Traffic but for the queries. -/
def Traffic.unasked (t : Traffic) : Traffic :=
  { t with queries := [] }

/-- The traffic once a client is opened. -/
def Traffic.opening (t : Traffic) (url : String) : Traffic :=
  { t with urls := t.urls ++ [url] }

/-- A client is closed, and there may be queries before. -/
def Traffic.Closes (t t' : Traffic) : Prop :=
  t'.unasked = { t.unasked with closed := t.closed + 1 }

theorem Traffic.settles_refl (t : Traffic) : t.Settles t :=
  ⟨rfl, 0, Nat.zero_le 1, rfl, rfl⟩

theorem Traffic.Closes.settles {t t' : Traffic} (url : String) (h : (t.opening url).Closes t') :
    t.Settles t' := by
  have hurls : t'.urls = t.urls ++ [url] := (congrArg Traffic.urls h :)
  refine ⟨(congrArg Traffic.executed h :), 1, Nat.le_refl 1, ?_, (congrArg Traffic.closed h :)⟩
  rw [hurls, List.length_append, List.length_singleton]

theorem Traffic.closes_of_unasked {t t' : Traffic} (h : t'.unasked = t.unasked) :
    t.Closes { t' with closed := t'.closed + 1 } := by
  have hclosed : t'.closed = t.closed := (congrArg Traffic.closed h :)
  rw [Closes, ← h, ← hclosed]
  rfl

theorem finallyDo_close (work : OnServer α) (t : Traffic) : finallyDo work Server.close t =
    ((work t).1, { (work t).2 with closed := (work t).2.closed + 1 }) := by
  unfold finallyDo
  cases work t with
  | mk result t' => cases result <;> rfl

namespace Server

theorem keeps_fetch (s : Server) (source : CatalogTable) (database table : String) :
    Keeps Traffic.unasked (s.fetch source database table) := by
  unfold fetch
  refine Keeps.bind (fun _ => rfl) fun _ => ?_
  cases s.rows source with
  | ok rows => exact keeps_pure rows
  | error message => exact keeps_throw _

theorem keeps_readVersion (s : Server) : Keeps id s.readVersion := by
  unfold readVersion
  cases s.version with
  | ok v => exact keeps_pure v
  | error message => exact keeps_throw _

end Server

theorem OnServer.keeps_ofExcept {f : Traffic → β} (e : Except Failure α) :
    Keeps f (OnServer.ofExcept e) := by
  cases e with
  | ok a => exact keeps_pure a
  | error g => exact keeps_throw g

theorem Catalog.keeps_load (s : Server) (ids : IdSupply) (database table : String) :
    Keeps Traffic.unasked (load s ids database table) := by
  unfold load
  refine (s.keeps_fetch _ _ _).bind fun _ => ?_
  refine (OnServer.keeps_ofExcept _).bind fun columns => ?_
  have hrest : Keeps Traffic.unasked (do
      let rows ← OnServer.ofExcept (indexRowsOfRows (← s.fetch .statistics database table))
      let keys ← OnServer.ofExcept (foreignKeysOfRows [] (← s.fetch .keyColumnUsage database table))
      let triggers ← OnServer.ofExcept ((← s.fetch .triggers database table).mapM triggerOfRow)
      pure (Definition.ofCatalog columns.1 rows keys triggers, columns.2)) := by
    refine (s.keeps_fetch _ _ _).bind fun _ => (OnServer.keeps_ofExcept _).bind fun _ => ?_
    refine (s.keeps_fetch _ _ _).bind fun _ => (OnServer.keeps_ofExcept _).bind fun _ => ?_
    refine (s.keeps_fetch _ _ _).bind fun _ => (OnServer.keeps_ofExcept _).bind fun _ => ?_
    exact keeps_pure _
  dsimp only
  split
  · exact (keeps_throw _).bind fun _ => hrest
  · exact hrest

/-- Asking for the version opens a client and closes it. -/
theorem probe_closes (url : String) (s : Server) (t : Traffic) :
    (t.opening url).Closes (probe url s t).2 := by
  unfold probe
  rw [bind_apply]
  show (t.opening url).Closes (finallyDo s.readVersion Server.close (t.opening url)).2
  rw [finallyDo_close]
  exact Traffic.closes_of_unasked (s.keeps_readVersion.of_comp Traffic.unasked _)

namespace Job

theorem moves_onServer {r : Traffic → Traffic → Prop} {work : Server → OnServer α}
    (h : ∀ s t, r t (work s t).2) : Moves Workspace.traffic r (onServer work) :=
  fun w => h w.server w.traffic

theorem moves_attempt {m : Job α} {f : Workspace → β} {r : β → β → Prop} (h : Moves f r m) :
    Moves f r m.attempt := h

theorem keeps_traffic {m : Job α} (h : Keeps Workspace.world m) : Keeps Workspace.traffic m :=
  h.of_comp Workspace.traffic

end Job

theorem keeps_clientUrl (chosen : Option String) (envPrefix : String) (url : Option String) :
    Keeps id (clientUrl chosen envPrefix url) := by
  unfold clientUrl
  refine keeps_get.bind fun w => ?_
  cases url with
  | some u => cases chosen <;> exact keeps_pure u
  | none =>
    cases chosen with
    | some name =>
      dsimp only
      rw [map_eq_pure_bind]
      exact (Job.keeps_ofExcept _).bind fun _ => keeps_pure _
    | none =>
      dsimp only
      rw [map_eq_pure_bind]
      exact (Job.keeps_ofExcept _).bind fun _ => keeps_pure _

/-- Opening a client fails and does nothing, or it adds the client to the traffic. -/
theorem openClient_cases (chosen : Option String) (envPrefix : String) (url : Option String)
    (w : Workspace) :
    (∃ f, openClient chosen envPrefix url w = (.error f, w)) ∨
      ∃ u, openClient chosen envPrefix url w =
        (.ok u, { w with traffic := w.traffic.opening u }) := by
  unfold openClient
  obtain ⟨f, t, -, hbind, ht⟩ | ⟨u, t, -, hbind, ht⟩ :=
    (keeps_clientUrl chosen envPrefix url).bind_cases
      (fun u => do Job.onServer (fun _ => Server.connect u); pure u) w
  · rw [hbind, show t = w from ht]
    exact .inl ⟨f, rfl⟩
  · rw [hbind, show t = w from ht]
    exact .inr ⟨u, rfl⟩

end TableDraft
