import Mathlib.Data.List.Chain
import TableDraft.Proofs.Script.Cuts

namespace TableDraft.Script
open TableDraft.Text TableDraft.Sql

theorem meets_cons_iff {c : Char} (hc : isBlank c = true) (p r : List Char) :
    Meets (c :: p) r ↔ Meets p r := by
  have hlexeme := lexeme_mark (startsWord_of_not_word (isWordChar_of_isBlank hc))
    (isQuote_of_isBlank hc) 0 (p ++ ';' :: r)
  rw [Meets, scans_lexeme_iff (List.cons_ne_nil _ _) (List.cons_append ..), hlexeme]
  simp [Meets]

theorem getLast?_wordLexeme {w : List Char} (hw : ∀ c ∈ w, isWordChar c = true) (depth : Nat)
    (r : List Char) : ∀ c ∈ (wordLexeme depth w r).taken.getLast?, isWordChar c = true := by
  have hword : ∀ c ∈ w.getLast?, isWordChar c = true := fun c hc => hw c (List.mem_of_getLast? hc)
  unfold wordLexeme
  dsimp only
  split
  · exact hword
  split
  · exact hword
  split
  · cases hf : following? r with
    | none => exact hword
    | some f =>
      obtain ⟨-, htrails⟩ := trails_of_following? hf
      have hclosing : ∀ c ∈ (w ++ f.gap ++ f.word).getLast?, isWordChar c = true := by
        intro c hc
        rw [List.getLast?_append_of_ne_nil _ htrails.word_ne_nil] at hc
        exact htrails.wordChars c (List.mem_of_getLast? hc)
      dsimp only
      split
      · exact hclosing
      split
      · exact hclosing
      · exact hword
  · exact hword

/-- A turn that ends outside quotes and in a blank takes this blank alone. -/
theorem eq_of_turn_blank {s between : Standing} {c e : Char} {r u rest : List Char}
    (hs : s.IsQuoted) (he : isBlank e = true) (h : turn s c r = ⟨u ++ [e], rest, between⟩)
    (hopen : between.quote = none) : u = [] ∧ between = s := by
  obtain ⟨quote, depth⟩ := s
  cases quote with
  | some q =>
    have hquoted : turn ⟨some q, depth⟩ c r = quotedTurn q depth c r := rfl
    rw [hquoted] at h
    have hclosed : (quotedTurn q depth c r).standing.quote = none := by
      rw [h]
      exact hopen
    obtain ⟨rfl, htaken⟩ := eq_of_quotedTurn hclosed
    rw [h] at htaken
    obtain rfl : e = c := by
      rcases List.append_eq_singleton_iff.1 htaken with ⟨-, h⟩ | ⟨-, h⟩
      · exact List.singleton_inj.1 h
      · cases h
    rw [isBlank_of_isQuote (hs e rfl)] at he
    cases he
  | none =>
    cases hq : isQuote c with
    | true =>
      simp only [turn, hq, if_true] at h
      obtain ⟨-, -, rfl⟩ := Turn.mk.inj h
      cases hopen
    | false =>
      simp only [turn, hq, Bool.false_eq_true, if_false] at h
      obtain ⟨htaken, -, rfl⟩ := Turn.mk.inj h
      cases hw : startsWord c with
      | true =>
        have hword : ∀ d ∈ c :: r.takeWhile isWordChar, isWordChar d = true :=
          List.forall_mem_cons.2 ⟨isWordChar_of_startsWord hw, fun _ => List.mem_takeWhile_imp⟩
        have hlexeme : lexeme depth c r =
            wordLexeme depth (c :: r.takeWhile isWordChar) (r.dropWhile isWordChar) := by
          have hstart : (isLetter c || c == '_') = true := hw
          simp [lexeme, hq, hstart]
        have hlast := getLast?_wordLexeme hword depth (r.dropWhile isWordChar)
        rw [← hlexeme, htaken, List.getLast?_concat] at hlast
        have := hlast e rfl
        rw [isWordChar_of_isBlank he] at this
        cases this
      | false =>
        rw [lexeme_mark hw hq] at htaken ⊢
        have hnil : u = [] := by
          rcases List.append_eq_singleton_iff.1 htaken.symm with h | h
          · exact h.1
          · cases h.2
        exact ⟨hnil, rfl⟩

theorem Scans.of_concat {s after : Standing} {p rest : List Char} {c : Char} (hc : isBlank c = true)
    (h : Scans s (p ++ [c]) after rest) (hs : s.IsQuoted) (hafter : after.quote = none) :
    Scans s p after (c :: rest) := by
  generalize htext : p ++ [c] = text at h
  induction h generalizing p with
  | stay => simp at htext
  | @next s between after d u t rest hturn ht ih =>
    have hbetween : between.IsQuoted := by
      have := isQuoted_turn hs d (u ++ t ++ rest)
      rwa [hturn] at this
    rcases List.eq_nil_or_concat t with rfl | ⟨t', e, rfl⟩
    · -- the last turn ends in the blank, so it takes nothing else
      rw [List.append_nil] at htext
      obtain rfl := scans_nil_iff.1 ht
      rw [← htext] at hturn
      obtain ⟨rfl, rfl⟩ := eq_of_turn_blank hs hc hturn hafter
      exact .stay
    · rw [List.concat_eq_append] at *
      rw [← List.append_assoc, ← List.cons_append] at htext
      obtain ⟨rfl, he⟩ := List.append_inj' htext rfl
      obtain rfl := List.singleton_inj.1 he
      refine .next ?_ (ih hbetween hafter rfl)
      simpa using hturn

theorem Meets.of_concat {p r : List Char} {c : Char} (hc : isBlank c = true)
    (h : Meets (p ++ [c]) r) : Meets p r := by
  have hend : atEnd (c :: ';' :: r) = true := atEnd_cons_blank hc (';' :: r)
  exact (Scans.of_concat hc h nofun rfl).congr hend (atEnd_semicolon r) nofun rfl

theorem uncut_trim {s : List Char} (h : Uncut s) : Uncut (trim s) := by
  refine trim_keeps (fun c t hc ht => ?_)
    (fun c t _ ht => ht.of_isPrefix (List.prefix_append t [c])) h
  rintro p r rfl rest hp
  exact ht (c :: p) r rfl rest ((meets_cons_iff hc p rest).2 hp)

theorem meets_trim {s : List Char} (r : List Char) (h : Meets s r) : Meets (trim s) r :=
  trim_keeps (P := fun t => Meets t r) (fun _ t hc => (meets_cons_iff hc t r).1)
    (fun _ _ hc => Meets.of_concat hc) h

/-- A closed text stays closed without the blanks at its ends. -/
theorem closed_trim {s : List Char} (h : Closed s) : Closed (trim s) := by
  obtain ⟨hmeets, huncut⟩ := (closed_iff []).1 h
  exact (closed_iff []).2 ⟨meets_trim [] hmeets, uncut_trim huncut⟩

theorem statementsOf_uncut {s : List Char} (hs : Uncut s) (hne : trim s ≠ []) :
    statementsOf s = [trim s] := by
  have hv : (trim s).isEmpty = false := by simpa using hne
  simp [statementsOf, fragments_eq_singleton_iff.2 hs, hv]

theorem statementsOf_trim_uncut {s : List Char} (hs : Uncut s) (hne : trim s ≠ []) :
    statementsOf (trim s) = [trim s] := by
  rw [statementsOf_uncut (uncut_trim hs) (by rwa [trim_trim]), trim_trim]

/-- The statements of a text are those of the text that they are joined to. -/
theorem statementsOf_rejoined (s : List Char) :
    statementsOf ([';', '\n'].intercalate (statementsOf s)) = statementsOf s := by
  induction hn : s.length using Nat.strongRecOn generalizing s with
  | _ n ih =>
  obtain ⟨f, fs, hf⟩ := List.exists_cons_of_ne_nil (fragments_ne_nil 0 s)
  by_cases hfs : fs = []
  · -- nothing is cut, so what there is may be left open
    have htext := intercalate_fragments 0 s
    rw [hf, hfs, List.intercalate_singleton] at htext
    subst htext hfs
    have huncut := fragments_eq_singleton_iff.1 hf
    by_cases hne : trim f = []
    · have hnone : statementsOf f = [] := by simp [statementsOf, hf, hne]
      rw [hnone, List.intercalate_nil, statementsOf_nil]
    · rw [statementsOf_uncut huncut hne, List.intercalate_singleton,
        statementsOf_trim_uncut huncut hne]
  · obtain ⟨r, rfl, hclosed, -⟩ := closed_of_fragments hf hfs
    have ihr : statementsOf ([';', '\n'].intercalate (statementsOf r)) = statementsOf r :=
      ih r.length (by rw [← hn, List.length_append, List.length_cons]; omega) r rfl
    by_cases hne : trim f = []
    · have hskip : statementsOf (f ++ ';' :: r) = statementsOf r := by
        simp [statementsOf, hclosed r, hne]
      rw [hskip, ihr]
    · rw [statementsOf_cut hclosed hne]
      by_cases hrest : statementsOf r = []
      · rw [hrest, List.intercalate_singleton,
          statementsOf_trim_uncut ((closed_iff []).1 hclosed).2 hne]
      · have hjoined : [';', '\n'].intercalate (trim f :: statementsOf r) =
            trim f ++ ';' :: '\n' :: [';', '\n'].intercalate (statementsOf r) := by
          rw [List.intercalate_cons_of_ne_nil hrest, List.append_assoc]
          rfl
        rw [hjoined, statementsOf_closed (closed_trim hclosed) (trim_trimmed f) hne,
          statementsOf_newline, ihr]

/-- Without two dashes in a row. -/
def Undashed (s : List Char) : Prop :=
  ¬"--".toList <:+: s

theorem undashed_iff_isChain {s : List Char} :
    Undashed s ↔ s.IsChain fun c d => c = '-' → d ≠ '-' := by
  rw [List.isChain_iff_forall_rel_of_append_cons_cons]
  constructor
  · rintro h c d p r rfl rfl rfl
    exact h ⟨p, r, by simp⟩
  · rintro h ⟨p, r, rfl⟩
    exact h (by simp; rfl) rfl rfl

theorem undashed_append_cons {c : Char} (hc : c ≠ '-') (s t : List Char) :
    Undashed (s ++ c :: t) ↔ Undashed s ∧ Undashed t := by
  simp [undashed_iff_isChain, List.isChain_append, List.isChain_cons, hc]

theorem Undashed.of_isInfix {s t : List Char} (ht : Undashed t) (h : s <:+: t) : Undashed s :=
  fun hs => ht (hs.trans h)

theorem undashed_append_append {sep : List Char} (hne : sep ≠ []) (hsep : '-' ∉ sep)
    (s t : List Char) : Undashed (s ++ (sep ++ t)) ↔ Undashed s ∧ Undashed t := by
  induction sep generalizing s with
  | nil => exact absurd rfl hne
  | cons c r ih =>
    obtain ⟨hc, hr⟩ := not_or.1 (mt List.mem_cons.2 hsep)
    rw [List.cons_append, undashed_append_cons (Ne.symm hc)]
    by_cases hnil : r = []
    · rw [hnil, List.nil_append]
    · rw [← List.nil_append (r ++ t), ih hnil hr]
      simp [Undashed]

theorem undashed_intercalate {sep : List Char} (hne : sep ≠ []) (hsep : '-' ∉ sep)
    {ls : List (List Char)} : Undashed (sep.intercalate ls) ↔ ∀ l ∈ ls, Undashed l := by
  induction ls with
  | nil => simp [Undashed]
  | cons l ls ih =>
    rw [List.forall_mem_cons, ← ih]
    by_cases hls : ls = []
    · subst hls
      simp [Undashed]
    · rw [List.intercalate_cons_of_ne_nil hls, List.append_assoc, undashed_append_append hne hsep]

theorem isComment_of_undashed {s : List Char} (h : Undashed s) :
    ∀ l ∈ lines s, isComment l = false := by
  intro l hl
  rw [← Bool.not_eq_true, isComment, List.isPrefixOf_iff_prefix]
  intro hdashes
  exact h (hdashes.isInfix.trans ((trim_isInfix l).trans (isInfix_of_mem_lines s l hl)))

theorem undashed_body {s : List Char} (h : Undashed s) : Undashed (body s) :=
  (undashed_intercalate (List.cons_ne_nil _ _) (by decide)).2 fun l hl =>
    h.of_isInfix (isInfix_of_mem_lines s l (List.mem_of_mem_filter hl))

theorem undashed_statementsOf {s : List Char} (h : Undashed s) :
    ∀ f ∈ statementsOf s, Undashed f := by
  rw [← intercalate_fragments 0 s] at h
  have hfragments := (undashed_intercalate (List.cons_ne_nil _ _) (by decide)).1 h
  intro f hf
  obtain ⟨g, hg, rfl⟩ := List.mem_map.1 (List.mem_of_mem_filter hf)
  exact (hfragments g hg).of_isInfix (trim_isInfix g)

theorem endsInLine_rejoined (s : List Char) :
    EndsInLine ([';', '\n'].intercalate (statementsOf s)) := by
  rcases List.eq_nil_or_concat (statementsOf s) with hnil | ⟨fs, f, hconcat⟩
  · rw [hnil]
    exact fun _ => nofun
  · have hf : f ∈ statementsOf s := by simp [hconcat]
    obtain ⟨hmem, hne⟩ := List.mem_filter.1 hf
    obtain ⟨g, -, rfl⟩ := List.mem_map.1 hmem
    have hlast : ([';', '\n'].intercalate (statementsOf s)).getLast? = (trim g).getLast? := by
      rw [hconcat, List.concat_eq_append]
      exact getLast?_intercalate fs (by simpa using hne)
    intro c hc
    rw [hlast] at hc
    exact isLineBreak_of_not_blank ((trim_trimmed g).2 c hc)

/-- A script without comments is split as its statements are when they are joined again. -/
theorem split_rejoined (script : String) (h : ¬"--".toList <:+: script.toList) :
    split (";\n".intercalate (split script)) = split script := by
  have hparts : (";\n".intercalate (split script)).toList =
      [';', '\n'].intercalate (statementsOf (body script.toList)) := by
    rw [String.toList_intercalate, split, List.map_map]
    simp
  have hjoined : Undashed ([';', '\n'].intercalate (statementsOf (body script.toList))) :=
    (undashed_intercalate (List.cons_ne_nil _ _) (by decide)).2
      (undashed_statementsOf (undashed_body h))
  have hbody := body_eq_relined (endsInLine_rejoined _) (isComment_of_undashed hjoined)
  -- the statements have no line breaks but line feeds, so that joined they are a body as they are
  have hbreaks := statementsOf_relined (body script.toList)
  rw [relined_body] at hbreaks
  rw [split, hparts, hbody, statementsOf_relined, statementsOf_rejoined, ← hbreaks]
  rfl

theorem split_rejoined_unclosed :
    ¬"--".toList <:+: "BEGIN ;\r\n;; SELECT CASE a ;\rEND ;\nSELECT 'b;c ".toList ∧
    split "BEGIN ;\r\n;; SELECT CASE a ;\rEND ;\nSELECT 'b;c " =
      ["BEGIN", "SELECT CASE a ;\nEND", "SELECT 'b;c"] ∧
    split (";\n".intercalate ["BEGIN", "SELECT CASE a ;\nEND", "SELECT 'b;c"]) =
      ["BEGIN", "SELECT CASE a ;\nEND", "SELECT 'b;c"] := by
  have hundashed : ¬"--".toList <:+: "BEGIN ;\r\n;; SELECT CASE a ;\rEND ;\nSELECT 'b;c ".toList := by
    rw [← occurs_iff_isInfix]
    decide
  have hparts : split "BEGIN ;\r\n;; SELECT CASE a ;\rEND ;\nSELECT 'b;c " =
      ["BEGIN", "SELECT CASE a ;\nEND", "SELECT 'b;c"] := by
    decide +kernel
  have hrejoined := split_rejoined _ hundashed
  rw [hparts] at hrejoined
  exact ⟨hundashed, hparts, hrejoined⟩

end TableDraft.Script
