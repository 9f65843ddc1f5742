import TableDraft.Proofs.Script.Words
import TableDraft.Proofs.Text.Relined

namespace TableDraft

namespace Text

/-- Behind a line feed the lines of a text begin anew. -/
theorem lines_append_feed (s r : List Char) :
    lines (s ++ '\n' :: r) = lines (s ++ ['\n']) ++ lines r := by
  have hfeed : ∀ t, lines ('\n' :: t) = [] :: lines t := lines_append_newline (List.forall_mem_nil _)
  fun_induction lines s with
  | case1 => rw [List.nil_append, List.nil_append, hfeed, hfeed]; rfl
  | case2 s ih => simp only [List.cons_append, lines, ih]
  | case3 c s hn hc ih =>
    cases s with
    | nil =>
      by_cases hreturn : c = '\r'
      · -- the line feed is part of the same break
        subst hreturn
        rfl
      · have hbreak : ∀ t, lines (c :: t) = [] :: lines t := fun t => by
          rw [lines.eq_3 _ _ fun _ h _ => hreturn h, if_pos hc]
        simp only [List.cons_append, List.nil_append, hbreak, hfeed, lines]
    | cons d s =>
      have hbreak : ∀ t, lines (c :: d :: s ++ t) = [] :: lines (d :: s ++ t) := fun t => by
        refine (lines.eq_3 c (d :: s ++ t) fun u hcr hu => ?_).trans (if_pos hc)
        obtain ⟨rfl, -⟩ := List.cons.inj hu
        exact hn s hcr rfl
      rw [hbreak, hbreak, ih]
      rfl
  | case4 c s hn hc _ ih | case5 c s hn hc _ _ _ ih =>
    have hplain : isLineBreak c = false := Bool.eq_false_iff.2 hc
    have hne : lines (s ++ ['\n']) ≠ [] := lines_ne_nil (by simp)
    obtain ⟨l, ls, hl⟩ := List.exists_cons_of_ne_nil hne
    rw [List.cons_append, List.cons_append, lines_cons _ hplain, lines_cons _ hplain, ih, hl]
    rfl

/-- Texts put together by line feeds keep their lines, those of `ss` as they are without `cs`. -/
theorem lines_intercalate_append (cs : List (List Char)) {ss : List (List Char)} (h : ss ≠ []) :
    lines (['\n'].intercalate (cs ++ ss)) =
      cs.flatMap (fun l => lines (l ++ ['\n'])) ++ lines (['\n'].intercalate ss) := by
  induction cs with
  | nil => rfl
  | cons l cs ih =>
    have hne : cs ++ ss ≠ [] := List.append_ne_nil_of_right_ne_nil cs h
    rw [List.cons_append, List.intercalate_cons_of_ne_nil hne, List.append_assoc,
      List.singleton_append, lines_append_feed, ih, List.flatMap_cons, List.append_assoc]

theorem count_lines {c : Char} (hc : isLineBreak c = false) (s : List Char) :
    (lines s).flatten.count c = s.count c := by
  have hne : ∀ d, isLineBreak d = true → d ≠ c := by
    rintro d hd rfl
    rw [hc] at hd
    cases hd
  fun_induction lines s with
  | case1 => rfl
  | case2 s ih =>
    rw [List.flatten_cons, List.nil_append, ih, List.count_cons_of_ne (hne '\r' (by decide)),
      List.count_cons_of_ne (hne '\n' (by decide))]
  | case3 d s _ hd ih =>
    rw [List.flatten_cons, List.nil_append, ih, List.count_cons_of_ne (hne d hd)]
  | case4 d s _ _ hl ih =>
    rw [hl] at ih
    simp only [List.flatten_cons, List.flatten_nil, List.append_nil, List.count_cons, ← ih]
  | case5 d s _ _ l ls hl ih =>
    rw [hl] at ih
    simp only [List.flatten_cons, List.cons_append, List.count_cons, ← ih]

theorem count_intercalate {c : Char} {sep : List Char} (hc : c ∉ sep) (ls : List (List Char)) :
    (sep.intercalate ls).count c = ls.flatten.count c := by
  induction ls with
  | nil => rfl
  | cons l ls ih =>
    cases ls with
    | nil => simp
    | cons k ks =>
      rw [List.intercalate_cons_cons, List.count_append, List.count_append, ih,
        List.count_eq_zero.2 hc, Nat.add_zero, ← List.count_append]
      rfl

theorem count_trim {c : Char} (hc : isBlank c = false) (s : List Char) :
    (trim s).count c = s.count c := by
  have hdrop : ∀ t : List Char, (t.dropWhile isBlank).count c = t.count c := by
    intro t
    have hblank : (t.takeWhile isBlank).count c = 0 := by
      refine List.count_eq_zero.2 fun hmem => ?_
      rw [List.mem_takeWhile_imp hmem] at hc
      cases hc
    conv_rhs => rw [← List.takeWhile_append_dropWhile (p := isBlank) (l := t)]
    rw [List.count_append, hblank, Nat.zero_add]
  rw [trim, trimRight, List.count_reverse, hdrop, List.count_reverse, trimLeft, hdrop]

end Text

namespace Script
open TableDraft.Text

/-- The fragments with a semicolon between any two of them are the text. -/
theorem intercalate_fragments (depth : Nat) (s : List Char) :
    [';'].intercalate (fragments depth s) = s := by
  fun_induction fragments depth s with
  | case1 => rfl
  | case2 depth c r h ih =>
    rw [List.intercalate_cons_of_ne_nil (fragments_ne_nil 0 r), ih, h.1]
    rfl
  | case3 depth c r hn x ih =>
    obtain ⟨f, fs, hf⟩ := List.exists_cons_of_ne_nil (fragments_ne_nil x.depth x.rest)
    have hfirst : ∀ gs, [';'].intercalate ((x.taken ++ f) :: gs) =
        x.taken ++ [';'].intercalate (f :: gs) := by
      intro gs
      cases gs <;> simp
    rw [hf] at ih ⊢
    rw [onFirst, hfirst, ih]
    exact lexeme_append depth c r

theorem count_statementsOf {c : Char} (hb : isBlank c = false) (hc : c ≠ ';') (s : List Char) :
    (statementsOf s).flatten.count c = s.count c := by
  have hcut : c ∉ [';'] := by simpa using hc
  have htrim : List.count c ∘ trim = List.count c := funext (count_trim hb)
  calc (statementsOf s).flatten.count c
      = ((fragments 0 s).map trim).flatten.count c := by
        rw [statementsOf, List.flatten_filter_not_isEmpty]
    _ = (fragments 0 s).flatten.count c := by
        rw [List.count_flatten, List.map_map, htrim, ← List.count_flatten]
    _ = s.count c := by
        rw [← count_intercalate hcut, intercalate_fragments]

theorem count_body {c : Char} (hc : isLineBreak c = false) (script : List Char) :
    (body script).count c = ((lines script).filter fun l => !isComment l).flatten.count c := by
  refine count_intercalate ?_ _
  rw [List.mem_singleton]
  rintro rfl
  cases hc

/-- If the body has all dashes of a script, the script has no comment lines. -/
theorem isComment_of_count {script : List Char} (h : (body script).count '-' = script.count '-') :
    ∀ l ∈ lines script, isComment l = false := by
  intro l hl
  by_contra hcomment
  rw [Bool.not_eq_false] at hcomment
  -- the dashes of the script are those of its comment lines and those of the other lines
  have hdashes : 0 < l.count '-' := by
    have hstart : "--".toList <+: trim l := List.isPrefixOf_iff_prefix.1 hcomment
    exact List.count_pos_iff.2 ((trim_isInfix l).subset (hstart.subset List.mem_cons_self))
  have hsplit := (List.filter_append_perm (fun l => !isComment l) (lines script)).flatten.count_eq '-'
  rw [List.flatten_append, List.count_append, ← count_body (by decide), count_lines (by decide), h]
    at hsplit
  have hnone : ((lines script).filter fun l => !!isComment l).flatten.count '-' = 0 := by omega
  have hmem : l ∈ (lines script).filter fun l => !!isComment l :=
    List.mem_filter.2 ⟨hl, by rw [hcomment]; rfl⟩
  have hsub : l.Sublist ((lines script).filter fun l => !!isComment l).flatten :=
    List.sublist_flatten_of_mem hmem
  exact absurd (hsub.count_le '-') (by omega)

/-- Of blanks and semicolons only. -/
def isIdle (s : List Char) : Bool :=
  s.all fun c => isBlank c || c == ';'

/-- Blanks and semicolons in front of a text belong to none of its statements. -/
theorem statementsOf_append {p : List Char} (h : isIdle p = true) (s : List Char) :
    statementsOf (p ++ s) = statementsOf s := by
  induction p with
  | nil => rfl
  | cons c p ih =>
    rw [isIdle, List.all_cons, Bool.and_eq_true, Bool.or_eq_true, beq_iff_eq] at h
    obtain ⟨hblank | rfl, hp⟩ := h
    · rw [List.cons_append, statementsOf_cons_blank hblank, ih hp]
    · rw [List.cons_append, ← ih hp]
      unfold statementsOf
      rw [fragments_semicolon]
      rfl

/-- Idle lines in front of others make no statement. -/
theorem statementsOf_intercalate_append {ls : List (List Char)} (h : ∀ l ∈ ls, isIdle l = true)
    (ks : List (List Char)) :
    statementsOf (['\n'].intercalate (ls ++ ks)) = statementsOf (['\n'].intercalate ks) := by
  induction ls with
  | nil => rfl
  | cons l ls ih =>
    have hl := h l List.mem_cons_self
    have ih := ih fun k hk => h k (List.mem_cons_of_mem l hk)
    rw [List.cons_append]
    by_cases hne : ls ++ ks = []
    · obtain ⟨rfl, rfl⟩ := List.append_eq_nil_iff.1 hne
      rw [List.nil_append, List.intercalate_singleton, ← List.append_nil l, statementsOf_append hl]
      rfl
    · rw [List.intercalate_cons_of_ne_nil hne, List.append_assoc, statementsOf_append hl,
        List.singleton_append, statementsOf_cons_blank (by decide), ih]

end Script

end TableDraft
