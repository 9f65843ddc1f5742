import TableDraft.Proofs.Sql.Ident
import TableDraft.Proofs.Statement.Closed

namespace TableDraft
open TableDraft.Sql TableDraft.Text

namespace Lead

/-- The words are there, and no name begins in them. -/
def Separates (l : Lead) : Prop :=
  l.words.toList ≠ [] ∧ backQuote ∉ l.words.toList

/-- What of a lead can be told from its text. -/
def reading (l : Lead) : String × String :=
  (l.words, trimmed l.name)

theorem reading_eq_iff {l m : Lead} :
    l.reading = m.reading ↔ l.words = m.words ∧ trimmed l.name = trimmed m.name :=
  Prod.mk.injEq .. ▸ Iff.rfl

theorem startsUnquoted_of_not_mem {s : List Char} (h : backQuote ∉ s) : StartsUnquoted s := by
  rintro c hc rfl
  exact h (List.mem_of_mem_head? hc)

theorem startsUnquoted_leads {ls : List Lead} (h : ∀ l ∈ ls, l.Separates) {e : List Char}
    (he : backQuote ∉ e) : StartsUnquoted (ls.flatMap text ++ e) := by
  cases ls with
  | nil => exact startsUnquoted_of_not_mem he
  | cons l r =>
    obtain ⟨hne, hfree⟩ := h l List.mem_cons_self
    intro c hc
    rw [List.flatMap_cons, text, List.append_assoc, List.append_assoc,
      List.head?_append_of_ne_nil _ hne] at hc
    exact startsUnquoted_of_not_mem hfree c hc

/-- Words without a back quote end where a quoted name begins. -/
theorem words_append_inj {w v x y : List Char} (hw : backQuote ∉ w) (hv : backQuote ∉ v)
    (h : w ++ backQuote :: x = v ++ backQuote :: y) : w = v ∧ x = y := by
  have hspan : ∀ {u z : List Char}, backQuote ∉ u →
      (u ++ backQuote :: z).takeWhile (· != backQuote) = u ∧
        (u ++ backQuote :: z).dropWhile (· != backQuote) = backQuote :: z := by
    intro u z hu
    refine span_run (fun c hc => bne_iff_ne.2 fun e => hu (e ▸ hc)) fun c hc => ?_
    cases hc
    rfl
  obtain ⟨htake, hdrop⟩ := hspan (z := x) hw
  obtain ⟨htake', hdrop'⟩ := hspan (z := y) hv
  rw [h, htake'] at htake
  rw [h, hdrop'] at hdrop
  exact ⟨htake.symm, (List.cons.inj hdrop).2.symm⟩

/-- Texts of leads, in front of a text without names, tell the leads apart. -/
theorem texts_eq_iff {ls ms : List Lead} (hls : ∀ l ∈ ls, l.Separates) (hms : ∀ m ∈ ms, m.Separates)
    {e f : List Char} (he : backQuote ∉ e) (hf : backQuote ∉ f) :
    ls.flatMap text ++ e = ms.flatMap text ++ f ↔
      ls.map reading = ms.map reading ∧ e = f := by
  have hquoted : ∀ (l : Lead) (r : List Char), backQuote ∈ l.text ++ r := by
    intro l r
    simp [text, quotedIdent]
  induction ls generalizing ms with
  | nil =>
    cases ms with
    | nil => simp
    | cons m ms =>
      refine iff_of_false (fun h => he ?_) (by simp)
      rw [List.flatMap_nil, List.nil_append, List.flatMap_cons, List.append_assoc] at h
      exact h ▸ hquoted m _
  | cons l ls ih =>
    cases ms with
    | nil =>
      refine iff_of_false (fun h => hf ?_) (by simp)
      rw [List.flatMap_nil, List.nil_append, List.flatMap_cons, List.append_assoc] at h
      exact h ▸ hquoted l _
    | cons m ms =>
      obtain ⟨hl, hls⟩ := List.forall_mem_cons.1 hls
      obtain ⟨hm, hms⟩ := List.forall_mem_cons.1 hms
      have htail := ih hls hms
      have hrest := quotedIdent_append_inj (x := l.name.toList) (y := m.name.toList)
        (startsUnquoted_leads hls he) (startsUnquoted_leads hms hf)
      have htrimmed : trim l.name.toList = trim m.name.toList ↔ trimmed l.name = trimmed m.name := by
        rw [← String.toList_inj, toList_trimmed, toList_trimmed]
      rw [List.map_cons, List.map_cons, List.cons.injEq, and_assoc, reading_eq_iff, and_assoc]
      have hall : (l :: ls).flatMap text ++ e =
          l.words.toList ++ (quotedIdent l.name.toList ++ (ls.flatMap text ++ e)) := by
        simp [text]
      have hall' : (m :: ms).flatMap text ++ f =
          m.words.toList ++ (quotedIdent m.name.toList ++ (ms.flatMap text ++ f)) := by
        simp [text]
      rw [hall, hall']
      constructor
      · intro h
        obtain ⟨hwords, hnames⟩ := words_append_inj hl.2 hm.2 h
        obtain ⟨hname, hr⟩ := hrest.1 (congrArg (backQuote :: ·) hnames)
        exact ⟨String.toList_inj.1 hwords, htrimmed.1 hname, htail.1 hr⟩
      · rintro ⟨hwords, hname, hr⟩
        rw [hwords, hrest.2 ⟨htrimmed.2 hname, htail.2 hr⟩]

end Lead

namespace Statement

/-- Nothing stands in the statement but words and names. -/
def isOfNames : Statement → Bool
  | addColumn .. | changeColumn .. | createTrigger .. => false
  | _ => true

/-- The names of a statement, each behind the words that lead to it. -/
def reading (s : Statement) : List (String × String) :=
  (s.opening :: s.links).map Lead.reading

theorem writesPlainly_of_isOfNames {s : Statement} (h : s.isOfNames = true) : s.WritesPlainly := by
  cases s with
  | addColumn | changeColumn | createTrigger => cases h
  | _ => trivial

theorem separates_words : ∀ w ∈ openingWords ++ linkWords,
    w.toList ≠ [] ∧ backQuote ∉ w.toList := by
  decide

theorem separates_leads {s : Statement} (h : s.isOfNames = true) :
    ∀ l ∈ s.opening :: s.links, l.Separates := by
  have hplain := writesPlainly_of_isOfNames h
  refine List.forall_mem_cons.2 ⟨?_, fun l hl => ?_⟩
  · exact separates_words _ (List.mem_append_left _ (words_opening_mem hplain))
  · exact separates_words _ (List.mem_append_right _ (words_links_mem hplain hl))

theorem backQuote_not_mem_ending {s : Statement} (h : s.isOfNames = true) :
    backQuote ∉ s.ending.toList := by
  have hclose : ∀ w ∈ closings, backQuote ∉ w.toList := by decide
  cases s with
  | addColumn | changeColumn | createTrigger => cases h
  | addUnique | addForeignKey => exact hclose ")" (by decide)
  | createIndex t i =>
    unfold ending
    dsimp only
    split <;> exact hclose _ (by decide)
  | _ => exact hclose "" (by decide)

/-- Two such statements have one text exactly if the same can be read in both. -/
theorem text_eq_iff {s u : Statement} (hs : s.isOfNames = true) (hu : u.isOfNames = true) :
    s.text = u.text ↔ s.reading = u.reading ∧ s.ending = u.ending := by
  have htexts : s.text = u.text ↔ s.draftText = u.draftText := by
    rw [text_eq (writesPlainly_of_isOfNames hs), text_eq (writesPlainly_of_isOfNames hu)]
    exact String.append_left_inj ";"
  have hlist : ∀ v : Statement, v.draftText.toList =
      (v.opening :: v.links).flatMap Lead.text ++ v.ending.toList := by
    intro v
    rw [toList_draftText, List.flatMap_cons, List.append_assoc]
  rw [htexts, ← String.toList_inj, hlist, hlist, Lead.texts_eq_iff (separates_leads hs)
    (separates_leads hu) (backQuote_not_mem_ending hs) (backQuote_not_mem_ending hu),
    String.toList_inj]
  rfl

theorem reading_columnLeads_inj {l r : List String} :
    (Index.columnLeads l).map Lead.reading = (Index.columnLeads r).map Lead.reading ↔
      l.map trimmed = r.map trimmed := by
  have htail : ∀ l : List String, (l.map (⟨", ", ·⟩ : String → Lead)).map Lead.reading =
      (l.map trimmed).map (", ", ·) := by
    intro l
    simp [Lead.reading]
  have hinj : Function.Injective fun c : String => (", ", c) :=
    fun c d h => (Prod.mk.inj h).2
  cases l with
  | nil => cases r <;> simp [Index.columnLeads]
  | cons c l =>
    cases r with
    | nil => simp [Index.columnLeads]
    | cons d r =>
      rw [Index.columnLeads, Index.columnLeads, List.map_cons, List.map_cons, htail, htail,
        List.cons.injEq, List.map_inj_right fun _ _ h => hinj h, List.map_cons, List.map_cons,
        List.cons.injEq, Lead.reading_eq_iff, and_iff_right rfl]

theorem text_createIndex_inj {t u : String} {i j : Index} :
    (createIndex t i).text = (createIndex u j).text ↔ i.kindWord = j.kindWord ∧
      trimmed i.name = trimmed j.name ∧ trimmed t = trimmed u ∧
      i.columns.map trimmed = j.columns.map trimmed := by
  have hending : i.columns.map trimmed = j.columns.map trimmed →
      (createIndex t i).ending = (createIndex u j).ending := by
    intro h
    have hempty : i.columns.isEmpty = j.columns.isEmpty := by
      rw [← List.isEmpty_map (f := trimmed), h, List.isEmpty_map]
    unfold ending
    dsimp only
    rw [hempty]
  have hopening : "CREATE " ++ i.kindWord ++ "INDEX " = "CREATE " ++ j.kindWord ++ "INDEX " ↔
      i.kindWord = j.kindWord := by
    rw [String.append_left_inj, String.append_right_inj]
  rw [text_eq_iff rfl rfl, reading, reading, opening, opening, links, links]
  simp only [List.map_cons, List.cons.injEq, Lead.reading_eq_iff, reading_columnLeads_inj, hopening,
    true_and, and_assoc]
  constructor
  · rintro ⟨hkind, hname, htable, hcolumns, -⟩
    exact ⟨hkind, hname, htable, hcolumns⟩
  · rintro ⟨hkind, hname, htable, hcolumns⟩
    exact ⟨hkind, hname, htable, hcolumns, hending hcolumns⟩

/-- A quoted name can be read back from what it stands in front of, so no name passes for another one
or for what stands around it: a statement that is made of names tells each of them, but for the
blanks around it. -/
theorem text_tells_names :
    (∀ x rest : String, StartsUnquoted rest.toList →
      readIdent? (ident x ++ rest).toList = some ((trimmed x).toList, rest.toList)) ∧
    (∀ x y : String, ident x = ident y ↔ trimmed x = trimmed y) ∧
    (∀ (t u : String) (c d : Column), (dropColumn t c).text = (dropColumn u d).text ↔
      trimmed t = trimmed u ∧ trimmed c.name = trimmed d.name) ∧
    (∀ (t u : String) (c d : Column), (addUnique t c).text = (addUnique u d).text ↔
      trimmed (uniqueIndexName c.name) = trimmed (uniqueIndexName d.name) ∧
        trimmed t = trimmed u ∧ trimmed c.name = trimmed d.name) ∧
    (∀ (t u : String) (c d : Column), (dropUnique t c).text = (dropUnique u d).text ↔
      trimmed (uniqueIndexName c.sourceName) = trimmed (uniqueIndexName d.sourceName) ∧
        trimmed t = trimmed u) ∧
    (∀ (t u : String) (i j : Index), (createIndex t i).text = (createIndex u j).text ↔
      i.kindWord = j.kindWord ∧ trimmed i.name = trimmed j.name ∧ trimmed t = trimmed u ∧
        i.columns.map trimmed = j.columns.map trimmed) ∧
    (∀ (t u : String) (i j : Index), (dropIndex t i).text = (dropIndex u j).text ↔
      trimmed i.name = trimmed j.name ∧ trimmed t = trimmed u) ∧
    (∀ (t u : String) (k m : ForeignKey), (addForeignKey t k).text = (addForeignKey u m).text ↔
      trimmed t = trimmed u ∧ trimmed k.constraintName = trimmed m.constraintName ∧
        trimmed k.columnName = trimmed m.columnName ∧
        trimmed k.referencedTable = trimmed m.referencedTable ∧
        trimmed k.referencedColumn = trimmed m.referencedColumn) ∧
    (∀ (t u : String) (k m : ForeignKey), (dropForeignKey t k).text = (dropForeignKey u m).text ↔
      trimmed t = trimmed u ∧ trimmed k.constraintName = trimmed m.constraintName) ∧
    (∀ g h : Trigger, (dropTrigger g).text = (dropTrigger h).text ↔
      trimmed g.name = trimmed h.name) := by
  refine ⟨fun x rest h => ?_, fun x y => ident_inj, ?_, ?_, ?_, fun t u i j => text_createIndex_inj,
    ?_, ?_, ?_, ?_⟩
  · rw [String.toList_append, toList_ident, readIdent?_quotedIdent h, toList_trimmed]
  all_goals
    intros
    rw [text_eq_iff rfl rfl]
    unfold reading opening links ending
    simp only [List.map_cons, List.map_nil, List.cons.injEq, Lead.reading_eq_iff, true_and, and_true]

/-- A name with a back quote and blanks in it, in front of the words that follow it in a statement. -/
theorem text_tells_names_backQuote : StartsUnquoted " ON `t`".toList ∧
    readIdent? (ident " a`b " ++ " ON `t`").toList = some ("a`b".toList, " ON `t`".toList) := by
  have hblank : StartsUnquoted " ON `t`".toList := by
    rintro c hc
    cases hc
    decide
  refine ⟨hblank, ?_⟩
  have hread := text_tells_names.1 " a`b " " ON `t`" hblank
  rwa [show trimmed " a`b " = "a`b" by decide] at hread

end Statement

end TableDraft
