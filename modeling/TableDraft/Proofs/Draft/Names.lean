import TableDraft.Proofs.Draft.Columns
import TableDraft.Proofs.Plan.Parts
import TableDraft.Proofs.Sql.Ident

namespace TableDraft
open TableDraft.Sql TableDraft.Text

/-- No name has blanks around it or is empty, and no two are the same. -/
def TidyNames (names : List String) : Prop :=
  (∀ n ∈ names, IsName n) ∧ names.Nodup

/-- No name is blank, and no two are the same once they are quoted. -/
def UsableNames (names : List String) : Prop :=
  (∀ n ∈ names, trimmed n ≠ "") ∧ (names.map ident).Nodup

instance (names : List String) : Decidable (TidyNames names) :=
  inferInstanceAs (Decidable (_ ∧ _))

instance (names : List String) : Decidable (UsableNames names) :=
  inferInstanceAs (Decidable (_ ∧ _))

theorem IsName.trimmed_ne {n : String} (h : IsName n) : trimmed n ≠ "" := by
  rw [h.1]
  exact h.2

theorem ident_inj_of_isName {m n : String} (hm : IsName m) (hn : IsName n) :
    ident m = ident n ↔ m = n := by
  rw [ident_inj, hm.1, hn.1]

theorem TidyNames.usable {names : List String} (h : TidyNames names) : UsableNames names := by
  refine ⟨fun n hn => (h.1 n hn).trimmed_ne, h.2.map_on ?_⟩
  exact fun m hm n hn => (ident_inj_of_isName (h.1 m hm) (h.1 n hn)).1

theorem TidyNames.concat {names : List String} (h : TidyNames names) {n : String} (hn : IsName n)
    (hfree : ∀ m ∈ names, m ≠ n) : TidyNames (names ++ [n]) := by
  refine ⟨List.forall_mem_append.2 ⟨h.1, List.forall_mem_singleton.2 hn⟩, ?_⟩
  rw [← List.concat_eq_append]
  exact List.Nodup.concat (fun hmem => hfree n hmem rfl) h.2

theorem TidyNames.sublist {names rest : List String} (h : TidyNames names)
    (hrest : rest.Sublist names) : TidyNames rest :=
  ⟨fun n hn => h.1 n (hrest.subset hn), h.2.sublist hrest⟩

theorem UsableNames.sublist {names rest : List String} (h : UsableNames names)
    (hrest : rest.Sublist names) : UsableNames rest :=
  ⟨fun n hn => h.1 n (hrest.subset hn), h.2.sublist (hrest.map ident)⟩

theorem usableNames_concat {names : List String} {n : String} : UsableNames (names ++ [n]) ↔
    UsableNames names ∧ trimmed n ≠ "" ∧ ∀ m ∈ names, trimmed m ≠ trimmed n := by
  have hapart : ((names ++ [n]).map ident).Nodup ↔
      (names.map ident).Nodup ∧ ∀ m ∈ names, trimmed m ≠ trimmed n := by
    simp [List.nodup_append, ident_inj]
  rw [UsableNames, UsableNames, hapart, List.forall_mem_append, List.forall_mem_singleton]
  exact ⟨fun ⟨⟨hold, hn⟩, hnodup, hfree⟩ => ⟨⟨hold, hnodup⟩, hn, hfree⟩,
    fun ⟨⟨hold, hnodup⟩, hn, hfree⟩ => ⟨⟨hold, hn⟩, hnodup, hfree⟩⟩

namespace Definition

/-- All names of the table are tidy. -/
structure WellNamed (w : Definition) : Prop where
  columns : TidyNames w.columnNames
  indexes : TidyNames w.indexNames
  foreignKeys : TidyNames w.constraintNames
  triggers : TidyNames w.triggerNames

/-- The names in a part of the table are usable. Only columns that differ are compared, since an update
makes all columns of one id the same. -/
def Usable (w : Definition) : Part → Prop
  | .columns => (∀ c ∈ w.columns, trimmed c.name ≠ "") ∧
      ∀ c ∈ w.columns, ∀ d ∈ w.columns, c ≠ d → ident c.name ≠ ident d.name
  | .indexes => UsableNames w.indexNames
  | .foreignKeys => UsableNames w.constraintNames
  | .triggers => UsableNames w.triggerNames

/-- What the checks of the edits keep up: tidy names, but those of foreign keys are just not empty and
different as they were given. -/
structure NamesChecked (w : Definition) : Prop where
  columns : ∀ c ∈ w.columns, IsName c.name
  same : ∀ c ∈ w.columns, ∀ d ∈ w.columns, c.name = d.name → c = d
  indexes : TidyNames w.indexNames
  filled : ∀ k ∈ w.foreignKeys, k.constraintName ≠ ""
  foreignKeys : w.constraintNames.Nodup
  triggers : TidyNames w.triggerNames

theorem WellNamed.namesChecked {w : Definition} (h : w.WellNamed) : w.NamesChecked where
  columns c hc := h.columns.1 c.name (List.mem_map_of_mem hc)
  same _ hc _ hd := List.inj_on_of_nodup_map h.columns.2 hc hd
  indexes := h.indexes
  filled k hk := (h.foreignKeys.1 k.constraintName (List.mem_map_of_mem hk)).2
  foreignKeys := h.foreignKeys.2
  triggers := h.triggers

/-- Where ids are distinct no column is there twice. -/
theorem NamesChecked.tidy_columnNames {w : Definition} (h : w.NamesChecked)
    (hids : w.columnIds.Nodup) : TidyNames w.columnNames :=
  ⟨List.forall_mem_map.2 h.columns, (List.Nodup.of_map _ hids).map_on h.same⟩

theorem NamesChecked.usable {w : Definition} (h : w.NamesChecked) {p : Part}
    (hp : p ≠ .foreignKeys) : w.Usable p := by
  cases p with
  | columns =>
    refine ⟨fun c hc => (h.columns c hc).trimmed_ne, fun c hc d hd hne he => hne ?_⟩
    exact h.same c hc d hd ((ident_inj_of_isName (h.columns c hc) (h.columns d hd)).1 he)
  | indexes => exact h.indexes.usable
  | foreignKeys => exact absurd rfl hp
  | triggers => exact h.triggers.usable

/-- An update gives the column its own name or a free one, so that it meets no other column. -/
theorem NamesChecked.withColumn {w : Definition} (h : w.NamesChecked) {id : Value}
    {current c : Column} (hc : Column.UpdatedIn w id current c) :
    (w.withColumn id c).NamesChecked := by
  have hother : ∀ d ∈ w.columns, d.id.isValue id = false → c.name ≠ d.name := by
    intro d hd hid hn
    obtain hkept | ⟨-, hfree⟩ := hc.name
    · rw [h.same d hd current hc.mem (hn.symm.trans hkept), hc.found] at hid
      cases hid
    · exact hfree d hd hn.symm
  refine { h with columns := fun d hd => ?_, same := fun d hd e he hn => ?_ }
  · obtain rfl | ⟨hd, -⟩ := mem_withColumn hd
    · exact hc.isName (h.columns current hc.mem)
    · exact h.columns d hd
  · obtain hdc | ⟨hd, hdid⟩ := mem_withColumn hd <;>
      obtain hec | ⟨he, heid⟩ := mem_withColumn he
    · rw [hdc, hec]
    · exact absurd (hdc ▸ hn) (hother e he heid)
    · exact absurd (hec ▸ hn).symm (hother d hd hdid)
    · exact h.same d hd e he hn

end Definition

namespace Made

/-- The names of columns and tables that what was made refers to. -/
def references : Made → List String
  | .index i => i.columns
  | .foreignKey k => [k.columnName, k.referencedTable, k.referencedColumn]
  | _ => []

/-- What no edit checks when it makes something in `w`: that it refers to nothing blank, and that the
name of a foreign key is not blank and not that of another one with blanks around it. -/
def FitsIn (w : Definition) (m : Made) : Prop :=
  (∀ n ∈ m.references, trimmed n ≠ "") ∧ ∀ k, m = .foreignKey k →
    trimmed k.constraintName ≠ "" ∧ ∀ n ∈ w.constraintNames, trimmed n ≠ trimmed k.constraintName

end Made

namespace Edit

variable {snapshot w w' : Definition} {ids : IdSupply} {e : Edit} {m : Made}

theorem Makes.namesChecked (h : e.Makes snapshot w ids m w') (hsnapshot : snapshot.NamesChecked)
    (hw : w.NamesChecked) : w'.NamesChecked := by
  cases h with
  | @addColumn a c new =>
    refine { hw with columns := ?_, same := fun d hd e he hn => ?_ }
    · exact List.forall_mem_append.2 ⟨hw.columns, List.forall_mem_singleton.2 new.isName⟩
    · obtain hd | hd := List.mem_append.1 hd <;> obtain he | he := List.mem_append.1 he
      · exact hw.same d hd e he hn
      · rw [List.mem_singleton.1 he] at hn
        exact absurd hn (new.free d hd)
      · rw [List.mem_singleton.1 hd] at hn
        exact absurd hn.symm (new.free e he)
      · rw [List.mem_singleton.1 hd, List.mem_singleton.1 he]
  | updateColumn updated => exact hw.withColumn updated
  | renameColumn updated => exact hw.withColumn updated
  | dropColumn =>
    refine { hw with columns := fun c hc => ?_, same := fun c hc d hd => ?_ }
    · exact hw.columns c (List.mem_filter.1 hc).1
    · exact hw.same c (List.mem_filter.1 hc).1 d (List.mem_filter.1 hd).1
  | @addIndex name columns type i isName free formed =>
    refine { hw with indexes := ?_ }
    rw [Definition.indexNames, List.map_append]
    exact hw.indexes.concat isName (List.forall_mem_map.2 free)
  | dropIndex => exact { hw with indexes := hw.indexes.sublist (List.filter_sublist.map _) }
  | addForeignKey given filled free =>
    refine { hw with filled := ?_, foreignKeys := nodup_map_concat hw.foreignKeys free }
    refine List.forall_mem_append.2 ⟨hw.filled, List.forall_mem_singleton.2 fun he => filled ?_⟩
    exact he ▸ List.mem_cons_self
  | dropForeignKey =>
    refine { hw with filled := ?_, foreignKeys := nodup_map_filter hw.foreignKeys _ }
    exact fun k hk => hw.filled k (List.mem_filter.1 hk).1
  | @addTrigger name timing event body t isName free =>
    refine { hw with triggers := ?_ }
    rw [Definition.triggerNames, List.map_append]
    exact hw.triggers.concat isName (List.forall_mem_map.2 free)
  | dropTrigger => exact { hw with triggers := hw.triggers.sublist (List.filter_sublist.map _) }
  | discard => exact hsnapshot

/-- The names of foreign keys stay usable just as long as each new key fits in. -/
theorem Makes.usable_constraintNames (h : e.Makes snapshot w ids m w')
    (hsnapshot : UsableNames snapshot.constraintNames) (hw : UsableNames w.constraintNames)
    (hm : m.FitsIn w) : UsableNames w'.constraintNames := by
  cases h with
  | @addForeignKey name column table other k given filled free =>
    rw [Definition.constraintNames, List.map_append]
    exact usableNames_concat.2 ⟨hw, hm.2 k rfl⟩
  | dropForeignKey => exact hw.sublist (List.filter_sublist.map _)
  | discard => exact hsnapshot
  | _ => exact hw

theorem Makes.fitsIn (h : e.Makes snapshot w ids m w') (hw' : UsableNames w'.constraintNames)
    (hm : ∀ n ∈ m.references, trimmed n ≠ "") : m.FitsIn w := by
  refine ⟨hm, ?_⟩
  rintro k rfl
  cases h with
  | addForeignKey =>
    rw [Definition.constraintNames, List.map_append] at hw'
    exact (usableNames_concat.1 hw').2

end Edit

namespace Draft

/-- In every state that the edits reach all names can be used and are apart once they are quoted, and
nothing that an edit makes refers to a blank name. -/
structure StaysUsable (d : Draft) (ids : IdSupply) (es : List Edit) : Prop where
  names : ∀ before after, es = before ++ after → ∀ p, (d.run ids before).1.working.Usable p
  references : ∀ before e after m, es = before ++ e :: after → d.outcome ids before e = .ok m →
    ∀ n ∈ m.references, trimmed n ≠ ""

theorem namesChecked_run {d : Draft} (hsnapshot : d.snapshot.NamesChecked)
    (hworking : d.working.NamesChecked) (ids : IdSupply) (es : List Edit) :
    (d.run ids es).1.working.NamesChecked := by
  refine (run_induction (motive := fun t => t.snapshot = d.snapshot ∧ t.working.NamesChecked) ?_
    ⟨rfl, hworking⟩ ids).2
  rintro t ids e - ⟨hsame, ht⟩
  refine ⟨(snapshot_apply t ids e).trans hsame, ?_⟩
  obtain ⟨-, hfailed⟩ | ⟨m, w, hmakes, -, hmade⟩ := t.apply_cases ids e
  · rwa [hfailed]
  · rw [hmade]
    exact hmakes.namesChecked (hsame ▸ hsnapshot) ht

/-- Where no id is taken that is in use, all ids stay distinct. -/
theorem nodup_columnIds_run {d : Draft} {ids : IdSupply} {es : List Edit}
    (hsnapshot : d.snapshot.columnIds.Nodup) (hworking : d.working.columnIds.Nodup)
    (hfresh : d.TakesUnused ids es) : (d.run ids es).1.working.columnIds.Nodup := by
  refine (run_induction_unused (motive := fun t => t.snapshot = d.snapshot ∧
    t.working.columnIds.Nodup) ?_ ⟨rfl, hworking⟩ hfresh).2
  rintro t ids e - ⟨hsame, ht⟩ hunused
  refine ⟨(snapshot_apply t ids e).trans hsame, ?_⟩
  obtain ⟨-, hfailed⟩ | ⟨m, w, hmakes, hok, hmade⟩ := t.apply_cases ids e
  · rwa [hfailed]
  rw [hmade]
  cases hmakes with
  | addColumn new =>
    refine nodup_map_concat ht ?_
    rw [new.id]
    exact Definition.not_mem_columnIds.1 (not_or.1 (unused_of_addColumn hok hunused)).2
  | updateColumn updated => rwa [Definition.columnIds_withColumn updated]
  | renameColumn updated => rwa [Definition.columnIds_withColumn updated]
  | dropColumn => exact nodup_map_filter ht _
  | discard => exact hsame ▸ hsnapshot
  | _ => exact ht

theorem usable_constraintNames_run {d : Draft} {ids : IdSupply} {es : List Edit}
    (hsnapshot : UsableNames d.snapshot.constraintNames)
    (hworking : UsableNames d.working.constraintNames)
    (hfits : ∀ before e after m, es = before ++ e :: after → d.outcome ids before e = .ok m →
      m.FitsIn (d.run ids before).1.working) :
    UsableNames (d.run ids es).1.working.constraintNames := by
  induction es generalizing d ids with
  | nil => exact hworking
  | cons e es ih =>
    refine ih ?_ ?_ fun before f after m hes => hfits (e :: before) f after m (congrArg (e :: ·) hes)
    · rwa [snapshot_apply]
    · obtain ⟨-, hfailed⟩ | ⟨m, w, hmakes, hok, hmade⟩ := d.apply_cases ids e
      · rwa [hfailed]
      · rw [hmade]
        exact hmakes.usable_constraintNames hsnapshot hworking (hfits [] e es m rfl hok)

/-- Whatever is edited, all names stay checked, and those of columns, indexes and triggers can be used and
are apart once they are quoted. So are those of foreign keys, and nothing that is made refers to a blank
name, exactly if whatever an edit makes fits in. Where ids are distinct, no column is there twice. -/
theorem staysUsable_run (database table : String) {opened : Definition} (ids : IdSupply)
    (es : List Edit) (hopened : opened.WellNamed) :
    let s := start database table opened
    let w := (s.run ids es).1.working
    w.NamesChecked ∧ (∀ p, p ≠ .foreignKeys → w.Usable p) ∧
      (s.StaysUsable ids es ↔ ∀ before e after m, es = before ++ e :: after →
        s.outcome ids before e = .ok m → m.FitsIn (s.run ids before).1.working) ∧
      (opened.columnIds.Nodup → s.TakesUnused ids es → UsableNames w.columnNames) := by
  intro s w
  have hchecked : ∀ before, (s.run ids before).1.working.NamesChecked :=
    namesChecked_run hopened.namesChecked hopened.namesChecked ids
  refine ⟨hchecked es, fun p hp => (hchecked es).usable hp, ⟨fun h => ?_, fun h => ⟨?_, ?_⟩⟩,
    fun hids hfresh => ?_⟩
  · rintro before e after m rfl hm
    obtain ⟨w, hmakes, hmade⟩ := made_of_apply hm
    refine hmakes.fitsIn ?_ (h.references before e after m rfl hm)
    have hthen := h.names (before ++ [e]) after (by simp) .foreignKeys
    rw [run_append] at hthen
    change UsableNames ((s.run ids before).1.apply _ e).2.1.working.constraintNames at hthen
    rwa [hmade] at hthen
  · rintro before after rfl p
    by_cases hp : p = .foreignKeys
    · rw [hp]
      refine usable_constraintNames_run hopened.foreignKeys.usable hopened.foreignKeys.usable ?_
      rintro start e rest m rfl hm
      exact h start e (rest ++ after) m (by simp) hm
    · exact (hchecked before).usable hp
  · intro before e after m hes hm
    exact (h before e after m hes hm).1
  · exact ((hchecked es).tidy_columnNames (nodup_columnIds_run hids hids hfresh)).usable

/-- A foreign key whose name has a blank inside, where that of another one has none. -/
theorem staysUsable_run_blank_inside :
    let a : Column := ⟨.number 1, "id", some "id", "INT", none, none, true, false, false, false⟩
    let opened : Definition := ⟨[a], [⟨"i", "INDEX", false, ["id"]⟩], [⟨"fk", "id", "orgs", "id"⟩], []⟩
    (start "shop" "users" opened).StaysUsable ⟨fun n => "gen" ++ toString n, 0⟩
      [.addForeignKey (.text "f k") (.text "id") (.text "orgs") (.text "id")] := by
  intro a opened
  have hopened : opened.WellNamed := by
    constructor <;> decide +kernel
  refine (staysUsable_run "shop" "users" ⟨fun n => "gen" ++ toString n, 0⟩ _ hopened).2.2.1.2 ?_
  intro before e after m hes hm
  obtain ⟨rfl, hes⟩ | ⟨_, rfl, hes⟩ := List.cons_eq_append_iff.1 hes
  · cases hes
    have hmade : m = .foreignKey ⟨"f k", "id", "orgs", "id"⟩ := by
      refine Except.ok.inj (hm.symm.trans ?_)
      decide +kernel
    subst hmade
    refine ⟨by decide +kernel, ?_⟩
    rintro k hk
    cases hk
    show _ ∧ ∀ n ∈ opened.constraintNames, _
    decide +kernel
  · simp at hes

/-- A blank name of a foreign key, one that differs from another by a blank, and an index on a blank
name. All three edits succeed, and the plan quotes what they make. -/
theorem staysUsable_run_blank :
    let a : Column := ⟨.number 1, "id", some "id", "INT", none, none, true, false, false, false⟩
    let b : Column := { a with id := .number 2, name := "org_id", originalName := some "org_id" }
    let opened : Definition := ⟨[a, b], [], [⟨"fk_org", "org_id", "orgs", "id"⟩], []⟩
    let s := start "shop" "users" opened
    let ids : IdSupply := ⟨fun n => "gen" ++ toString n, 0⟩
    let addKey (name : String) := Edit.addForeignKey (.text name) (.text "org_id") (.text "orgs")
      (.text "id")
    let addIndex := Edit.addIndex (.text "i") (.list [.text " "]) (.text "INDEX")
    opened.WellNamed ∧
      (¬s.StaysUsable ids [addKey "  "] ∧ (s.run ids [addKey "  "]).1.plan.statements =
        ["ALTER TABLE `users` ADD CONSTRAINT `` FOREIGN KEY (`org_id`) REFERENCES `orgs` (`id`);"]) ∧
      (¬s.StaysUsable ids [addKey " fk_org"] ∧ (s.run ids [addKey " fk_org"]).1.plan.statements =
        ["ALTER TABLE `users` ADD CONSTRAINT `fk_org` FOREIGN KEY (`org_id`) REFERENCES `orgs` (`id`);"]) ∧
      (¬s.StaysUsable ids [addIndex] ∧ (s.run ids [addIndex]).1.plan.statements =
        ["CREATE INDEX `i` ON `users` (``);"]) := by
  intro a b opened s ids addKey addIndex
  have hkey : ∀ name, ¬UsableNames (s.run ids [addKey name]).1.working.constraintNames →
      ¬s.StaysUsable ids [addKey name] :=
    fun name hunusable h => hunusable (h.names [addKey name] [] rfl .foreignKeys)
  refine ⟨?_, ⟨hkey _ (by decide +kernel), by decide +kernel⟩, ⟨hkey _ (by decide +kernel),
    by decide +kernel⟩, fun h => ?_, by decide +kernel⟩
  · constructor <;> decide +kernel
  · have hmade : s.outcome ids [] addIndex = .ok (.index ⟨"i", "BTREE", false, [" "]⟩) := by
      decide +kernel
    exact h.references [] addIndex [] _ rfl hmade " " List.mem_cons_self (by decide +kernel)

end Draft

end TableDraft
