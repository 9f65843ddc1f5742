import TableDraft.Proofs.Script.Turns
import TableDraft.Proofs.Sql.Terminator

namespace TableDraft.Script
open TableDraft.Text TableDraft.Sql

/-- A statement may end in front of `s`: there the text ends, or a semicolon stands, behind blanks at
most. -/
def atEnd (s : List Char) : Bool :=
  (s.dropWhile isBlank).head?.all (· == ';')

theorem atEnd_semicolon (s : List Char) : atEnd (';' :: s) = true := rfl

theorem atEnd_cons_blank {c : Char} (h : isBlank c = true) (s : List Char) :
    atEnd (c :: s) = atEnd s := by
  rw [atEnd, List.dropWhile_cons_of_pos h, atEnd]

theorem eq_semicolon_of_atEnd {s : List Char} (h : atEnd s = true) :
    ∀ c ∈ (s.dropWhile isBlank).head?, c = ';' := by
  intro c hc
  rw [atEnd, Option.mem_def.1 hc] at h
  simpa using h

section
variable {x : List Char} (hx : atEnd x = true)
include hx

theorem atBreak_of_atEnd : atBreak x = true := by
  cases x with
  | nil => rfl
  | cons c r =>
    cases hc : isBlank c with
    | true => simp [atBreak, isWordChar_of_isBlank hc, isQuote_of_isBlank hc]
    | false =>
      obtain rfl : c = ';' := by
        refine eq_semicolon_of_atEnd hx c ?_
        rw [List.dropWhile_cons_of_neg (by simp [hc])]
        rfl
      rfl

theorem startsTransaction_append_of_atEnd (s : List Char) :
    startsTransaction (s ++ x) = startsTransaction s := by
  unfold startsTransaction
  rw [List.dropWhile_append]
  cases s.dropWhile isBlank with
  | nil =>
    have hend := eq_semicolon_of_atEnd hx
    cases hdrop : x.dropWhile isBlank with
    | nil => rfl
    | cons c r =>
      obtain rfl : c = ';' := hend c (by rw [hdrop]; rfl)
      rfl
  | cons c r =>
    have hbreak := atBreak_of_atEnd hx
    have hafter := afterWord?_append isWordChar_of_sameLetter (atWordEnd_of_atBreak hbreak) (c :: r)
    rw [List.cons_append] at hafter
    simp only [List.isEmpty_cons, Bool.false_eq_true, if_false, List.cons_append, hafter]
    cases afterWord? "WORK".toList (c :: r) with
    | none => rfl
    | some rest =>
      have hend : atWordEnd (rest ++ x) = atWordEnd rest := by
        cases rest with
        | nil => exact atWordEnd_of_atBreak hbreak
        | cons d t => rfl
      rw [Option.map_some]
      dsimp only
      rw [hend]

theorem following?_append_of_atEnd (s : List Char) : following? (s ++ x) =
    (following? s).map fun f => ⟨f.gap, f.word, f.rest ++ x⟩ := by
  have hsplit := List.takeWhile_append_dropWhile (p := isBlank) (l := s)
  cases hs : s.dropWhile isBlank with
  | nil =>
    -- no word stands behind the blanks, with `x` or without
    have hword : (x.dropWhile isBlank).takeWhile isWordChar = [] := by
      cases hdrop : x.dropWhile isBlank with
      | nil => rfl
      | cons c r =>
        obtain rfl : c = ';' := eq_semicolon_of_atEnd hx c (by rw [hdrop]; rfl)
        rfl
    have hblank : (s ++ x).dropWhile isBlank = x.dropWhile isBlank := by
      rw [List.dropWhile_append, hs]
      rfl
    simp [following?, hs, hblank, hword]
  | cons c r =>
    have hvisible : ∀ d ∈ (c :: r ++ x).head?, isBlank d = false := fun d hd => by
      refine head?_dropWhile isBlank s d ?_
      rwa [hs]
    have hgap := span_run (fun _ => List.mem_takeWhile_imp (l := s)) hvisible
    rw [hs] at hsplit
    rw [← List.append_assoc, hsplit] at hgap
    have hword := span_append (atWordEnd_iff.1 (atWordEnd_of_atBreak (atBreak_of_atEnd hx))) (c :: r)
    simp only [following?, hgap, hs, hword]
    split <;> rfl

theorem wordLexeme_append_of_atEnd (depth : Nat) (w s : List Char) :
    wordLexeme depth w (s ++ x) = ⟨(wordLexeme depth w s).taken, (wordLexeme depth w s).rest ++ x,
      (wordLexeme depth w s).depth⟩ := by
  unfold wordLexeme
  dsimp only
  rw [startsTransaction_append_of_atEnd hx, following?_append_of_atEnd hx]
  split
  · rfl
  split
  · rfl
  split
  · cases following? s with
    | none => rfl
    | some f =>
      dsimp only [Option.map_some]
      split
      · rfl
      split <;> rfl
  · rfl

theorem lexeme_append_of_atEnd {c : Char} (hq : isQuote c = false) (depth : Nat) (s : List Char) :
    lexeme depth c (s ++ x) = ⟨(lexeme depth c s).taken, (lexeme depth c s).rest ++ x,
      (lexeme depth c s).depth⟩ := by
  have hword := span_append (atWordEnd_iff.1 (atWordEnd_of_atBreak (atBreak_of_atEnd hx))) s
  unfold lexeme
  simp only [hq, Bool.false_eq_true, if_false, hword]
  split
  · exact wordLexeme_append_of_atEnd hx depth _ _
  · rfl

end

/-- The quotes that the scan stands in are quotes. -/
def Standing.IsQuoted (s : Standing) : Prop :=
  ∀ q ∈ s.quote, isQuote q = true

theorem isQuoted_turn {s : Standing} (hs : s.IsQuoted) (c : Char) (r : List Char) :
    (turn s c r).standing.IsQuoted := by
  intro q hq
  unfold turn at hq
  split at hq
  next q' hq' =>
    rcases literal_quotedTurn q' s.depth c r with ⟨hstanding, -⟩ | ⟨hstanding, -⟩
    · rw [hstanding] at hq
      cases hq
    · rw [hstanding] at hq
      cases hq
      exact hs q hq'
  · split at hq
    next hc =>
      cases hq
      exact hc
    · cases hq

/-- Only a quote of its own kind ends a quoted text, and is taken alone. -/
theorem eq_of_quotedTurn {q : Char} {depth : Nat} {c : Char} {r : List Char}
    (h : (quotedTurn q depth c r).standing.quote = none) :
    c = q ∧ (quotedTurn q depth c r).taken = [c] := by
  unfold quotedTurn at *
  split
  · by_cases hc : c = q
    · exact ⟨hc, rfl⟩
    · simp [hc] at h
  next d r =>
    dsimp only at h
    split at h
    · cases h
    next hback =>
      split at h
      next hc =>
        split at h
        · cases h
        next hd => exact ⟨hc, by rw [if_neg hback, if_pos hc, if_neg hd]⟩
      · cases h

theorem quotedTurn_closing {q : Char} (hq : isQuote q = true) (depth : Nat) {r : List Char}
    (hr : ∀ c ∈ r.head?, c ≠ q) : quotedTurn q depth q r = ⟨[q], r, none, depth⟩ := by
  cases r with
  | nil => simp [quotedTurn]
  | cons d r =>
    have hback : q ≠ '\\' := by
      rintro rfl
      exact absurd hq (by decide)
    have hd : d ≠ q := hr d rfl
    simp [quotedTurn, hback, hd]

/-- A quoted turn sees no further than the next character. -/
theorem quotedTurn_cons_append (q : Char) (depth : Nat) (c d : Char) (t x : List Char) :
    quotedTurn q depth c (d :: t ++ x) = ⟨(quotedTurn q depth c (d :: t)).taken,
      (quotedTurn q depth c (d :: t)).rest ++ x, (quotedTurn q depth c (d :: t)).standing⟩ := by
  rw [List.cons_append, quotedTurn, quotedTurn]
  split
  · rfl
  split
  · split <;> rfl
  · rfl

section
variable {x y : List Char} (hx : atEnd x = true) (hy : atEnd y = true)
include hx hy

/-- What a turn does in front of the end of a statement does not depend on that end, unless the scan
stays in quotes there. -/
theorem turn_congr {s between : Standing} {c : Char} {t u p : List Char} (hs : s.IsQuoted)
    (h : turn s c (t ++ x) = ⟨u, p ++ x, between⟩) (hopen : p = [] → between.quote = none) :
    turn s c (t ++ y) = ⟨u, p ++ y, between⟩ := by
  obtain ⟨quote, depth⟩ := s
  cases quote with
  | none =>
    cases hq : isQuote c with
    | true =>
      have hstart : ∀ r, turn ⟨none, depth⟩ c r = ⟨[c], r, some c, depth⟩ := by
        simp [turn, hq]
      rw [hstart] at h ⊢
      obtain ⟨rfl, hrest, rfl⟩ := Turn.mk.inj h
      rw [List.append_cancel_right hrest]
    | false =>
      have hlexeme : ∀ r, turn ⟨none, depth⟩ c r = ⟨(lexeme depth c r).taken,
          (lexeme depth c r).rest, none, (lexeme depth c r).depth⟩ := by
        simp [turn, hq]
      rw [hlexeme, lexeme_append_of_atEnd hx hq] at h
      obtain ⟨rfl, hrest, rfl⟩ := Turn.mk.inj h
      rw [hlexeme, lexeme_append_of_atEnd hy hq, List.append_cancel_right hrest]
  | some q =>
    have hquoted : ∀ r, turn ⟨some q, depth⟩ c r = quotedTurn q depth c r := fun _ => rfl
    rw [hquoted] at h ⊢
    cases t with
    | cons d t =>
      rw [quotedTurn_cons_append] at h ⊢
      obtain ⟨rfl, hrest, rfl⟩ := Turn.mk.inj h
      rw [List.append_cancel_right hrest]
    | nil =>
      -- nothing of the statement is left, so this is its closing quote
      obtain ⟨v, htaken, happend⟩ := quotedTurn_append q depth c x
      rw [List.nil_append] at h
      rw [h, ← List.append_assoc] at happend
      obtain ⟨rfl, rfl⟩ := List.append_eq_nil_iff.1 (List.self_eq_append_left.1 happend.symm)
      have hclosed : (quotedTurn q depth c x).standing.quote = none := by
        rw [h]
        exact hopen rfl
      obtain ⟨rfl, -⟩ := eq_of_quotedTurn hclosed
      have hquote : isQuote c = true := hs c rfl
      have hturn := fun {z} hz => quotedTurn_closing hquote depth
        (ne_quote_of_atBreak (atBreak_of_atEnd (x := z) hz) hquote)
      rw [hturn hx] at h
      obtain ⟨rfl, -, rfl⟩ := Turn.mk.inj h
      exact hturn hy

theorem Scans.congr {s after : Standing} {p : List Char} (h : Scans s p after x) (hs : s.IsQuoted)
    (hafter : after.quote = none) : Scans s p after y := by
  generalize hend : x = rest at h
  induction h with
  | stay => exact .stay
  | @next s between after c u p rest hturn hp ih =>
    subst hend
    have hbetween : between.IsQuoted := by
      have := isQuoted_turn hs c (u ++ p ++ x)
      rwa [hturn] at this
    refine .next (turn_congr hx hy hs hturn ?_) (ih hbetween hafter rfl)
    rintro rfl
    rwa [scans_nil_iff.1 hp]

end

/-- Whether the scan meets a semicolon outside quotes and blocks depends on what stands in front of it
only. -/
theorem Meets.congr {p r : List Char} (h : Meets p r) (r' : List Char) : Meets p r' :=
  Scans.congr (atEnd_semicolon r) (atEnd_semicolon r') h nofun rfl

/-- Behind a cut the scan begins anew. -/
theorem fragments_tail {depth : Nat} {text f : List Char} {fs : List (List Char)}
    (h : fragments depth text = f :: fs) (hfs : fs ≠ []) :
    fragments 0 ([';'].intercalate fs) = fs := by
  fun_induction fragments depth text generalizing f with
  | case1 =>
    obtain ⟨-, rfl⟩ := List.cons.inj h
    exact absurd rfl hfs
  | case2 depth c r =>
    obtain ⟨-, rfl⟩ := List.cons.inj h
    rw [intercalate_fragments]
  | case3 depth c r hn x =>
    rename_i ih
    obtain ⟨g, gs, hg⟩ := List.exists_cons_of_ne_nil (fragments_ne_nil x.depth x.rest)
    rw [hg] at h
    obtain ⟨-, rfl⟩ := List.cons.inj h
    exact ih hg

/-- The scan meets none of the semicolons of `s` outside quotes and blocks. -/
def Uncut (s : List Char) : Prop :=
  ∀ p r, s = p ++ ';' :: r → ∀ rest, ¬Meets p rest

theorem Uncut.of_isPrefix {s t : List Char} (hs : Uncut s) (h : t <+: s) : Uncut t := by
  obtain ⟨u, rfl⟩ := h
  rintro p r rfl
  exact hs p (r ++ u) (by simp)

theorem fragments_eq_singleton_iff {s : List Char} : fragments 0 s = [s] ↔ Uncut s := by
  constructor
  · rintro h p r htext rest hp
    have hcut := (scans_iff_cutAt htext.symm).1 (hp.congr r)
    rw [h] at hcut
    exact not_cutAt_singleton _ _ _ hcut
  · intro h
    obtain ⟨f, fs, hf⟩ := List.exists_cons_of_ne_nil (fragments_ne_nil 0 s)
    have htext := intercalate_fragments 0 s
    rw [hf] at htext ⊢
    by_cases hfs : fs = []
    · subst hfs
      rw [← htext, List.intercalate_singleton]
    · rw [List.intercalate_cons_of_ne_nil hfs, List.append_assoc] at htext
      refine absurd ((scans_iff_cutAt htext).2 ?_) (h _ _ htext.symm _)
      rw [hf]
      exact (cutAt_cons_iff hfs _ _ _).2 (.inl ⟨rfl, rfl⟩)

/-- The scan cuts behind `s` first if it meets the semicolon there, and none before. -/
theorem fragments_eq_cons_iff {s x : List Char} :
    fragments 0 (s ++ ';' :: x) = s :: fragments 0 x ↔ Meets s x ∧ Uncut s := by
  have hne := fragments_ne_nil 0 x
  have hmeets : ∀ p r, p ++ ';' :: r = s ++ ';' :: x →
      (Meets p r ↔ CutAt (fragments 0 (s ++ ';' :: x)) p r) := fun p r => scans_iff_cutAt
  constructor
  · intro h
    rw [h] at hmeets
    refine ⟨(hmeets s x rfl).2 ((cutAt_cons_iff hne s s x).2 ?_), ?_⟩
    · exact .inl ⟨rfl, (intercalate_fragments 0 x).symm⟩
    · rintro p r rfl y hp
      have hcut := (hmeets p (r ++ ';' :: x) (by simp)).1 (hp.congr _)
      rcases (cutAt_cons_iff hne _ _ _).1 hcut with ⟨hp, -⟩ | ⟨t, hp, -⟩
      all_goals
        have hlength := congrArg List.length hp
        simp only [List.length_append, List.length_cons] at hlength
        omega
  · rintro ⟨hs, hnone⟩
    have hcut := (hmeets s x rfl).1 hs
    obtain ⟨f, fs, hf⟩ := List.exists_cons_of_ne_nil (fragments_ne_nil 0 (s ++ ';' :: x))
    rw [hf] at hcut hmeets ⊢
    have hfs : fs ≠ [] := by
      rintro rfl
      exact not_cutAt_singleton _ _ _ hcut
    rcases (cutAt_cons_iff hfs _ _ _).1 hcut with ⟨rfl, rfl⟩ | ⟨t, rfl, -⟩
    · rw [fragments_tail hf hfs]
    · have htext := intercalate_fragments 0 (f ++ ';' :: t ++ ';' :: x)
      rw [hf, List.intercalate_cons_of_ne_nil hfs, List.append_assoc] at htext
      have hfirst := (hmeets f _ htext).2 ((cutAt_cons_iff hfs _ _ _).2 (.inl ⟨rfl, rfl⟩))
      exact absurd hfirst (hnone f t rfl _)

theorem closed_iff {s : List Char} (x : List Char) : Closed s ↔ Meets s x ∧ Uncut s := by
  constructor
  · exact fun h => fragments_eq_cons_iff.1 (h x)
  · exact fun h rest => fragments_eq_cons_iff.2 ⟨h.1.congr rest, h.2⟩

/-- The first of several fragments is closed, and the others are those of what stands behind it. -/
theorem closed_of_fragments {text f : List Char} {fs : List (List Char)}
    (h : fragments 0 text = f :: fs) (hfs : fs ≠ []) :
    ∃ r, text = f ++ ';' :: r ∧ Closed f ∧ fs = fragments 0 r := by
  have htext := intercalate_fragments 0 text
  have htail := fragments_tail h hfs
  rw [h, List.intercalate_cons_of_ne_nil hfs, List.append_assoc, List.singleton_append] at htext
  refine ⟨_, htext.symm, (closed_iff ([';'].intercalate fs)).2 (fragments_eq_cons_iff.1 ?_), htail.symm⟩
  rw [htext, h, htail]

theorem closed_of_head? {s x : List Char} (h : (fragments 0 (s ++ ';' :: x)).head? = some s) :
    Closed s := by
  obtain ⟨fs, hfs⟩ := List.head?_eq_some_iff.1 h
  by_cases hne : fs = []
  · have htext := intercalate_fragments 0 (s ++ ';' :: x)
    rw [hfs, hne, List.intercalate_singleton] at htext
    simp at htext
  · obtain ⟨-, -, hclosed, -⟩ := closed_of_fragments hfs hne
    exact hclosed

/-- It does not matter what stands behind the semicolon, so one text is enough. -/
theorem closed_iff_head? {s : List Char} :
    Closed s ↔ (fragments 0 (s ++ [';'])).head? = some s := by
  constructor
  · intro h
    rw [h []]
    rfl
  · exact closed_of_head?

/-- Behind a piece that is taken whole it is the rest that decides. -/
theorem closed_append_iff {p s : List Char} (hp : Whole p) (hs : atBreak s = true) :
    Closed (p ++ s) ↔ Closed s := by
  have htakes : Takes 0 p 0 (s ++ [';']) := hp _ (atBreak_append hs (by rfl))
  rw [closed_iff_head?, closed_iff_head?, List.append_assoc, htakes.head?_iff]

theorem statementsOf_cut {s : List Char} (hs : Closed s) (hne : trim s ≠ []) (rest : List Char) :
    statementsOf (s ++ ';' :: rest) = trim s :: statementsOf rest := by
  have hv : (trim s).isEmpty = false := by simpa using hne
  simp [statementsOf, hs rest, hv]

/-- Two texts up to a semicolon in the same text are one if they differ in blanks at the end only. -/
theorem eq_of_trimRight_eq {s t x y : List Char} (h : trimRight s = trimRight t)
    (htext : s ++ ';' :: x = t ++ ';' :: y) : s = t := by
  have hblank : ∀ u : List Char, ∀ c ∈ u.rtakeWhile isBlank, isBlank c = true :=
    fun _ _ => List.mem_rtakeWhile_imp
  have hends : ∀ u : List Char, trimRight u ++ u.rtakeWhile isBlank = u :=
    fun _ => List.rdropWhile_append_rtakeWhile
  have hsemicolon : ∀ z, ∀ c ∈ (';' :: z).head?, isBlank c = false := fun z c hc => by
    cases hc
    decide
  rw [← hends s, ← hends t, h, List.append_assoc, List.append_assoc] at htext
  have hrest := congrArg (List.takeWhile isBlank) (List.append_cancel_left htext)
  rw [(span_run (hblank s) (hsemicolon x)).1, (span_run (hblank t) (hsemicolon y)).1] at hrest
  rw [← hends s, ← hends t, h, hrest]

/-- A text whose trimmed form is the first statement up to a semicolon is closed. -/
theorem closed_of_statementsOf {c : Char} {s x : List Char} (hc : isBlank c = false ∧ c ≠ ';')
    (h : (statementsOf (c :: s ++ ';' :: x)).head? = some (trim (c :: s))) : Closed (c :: s) := by
  obtain ⟨f, fs, hf⟩ := List.exists_cons_of_ne_nil (fragments_ne_nil 0 (c :: s ++ ';' :: x))
  have hhead : f.head? = some c := (head?_fragments_cons hf).resolve_right fun h => hc.2 h.1
  have hvisible : ∀ t : List Char, t.head? = some c → trim t = trimRight t := by
    intro t ht
    rw [trim, trimLeft_eq_self]
    rw [ht]
    exact fun d hd => by cases hd; exact hc.1
  have hne : trimRight f ≠ [] := trimRight_ne_nil (List.mem_of_mem_head? hhead) hc.1
  have hfirst : trimRight f = trimRight (c :: s) := by
    rw [hvisible (c :: s) rfl, statementsOf, hf, List.map_cons, hvisible f hhead,
      List.filter_cons_of_pos] at h
    · exact Option.some_inj.1 h
    · simpa using hne
  have htext := intercalate_fragments 0 (c :: s ++ ';' :: x)
  rw [hf] at htext
  cases fs with
  | nil =>
    -- a fragment that goes on to the end of the text has the semicolon, unlike the statement
    rw [List.intercalate_singleton] at htext
    have hlast : ∀ d ∈ (c :: s ++ [';']).getLast?, isBlank d = false := by
      rw [List.getLast?_concat]
      exact fun d hd => by cases hd; decide
    have hlong := trimRight_append x hlast
    rw [List.append_assoc, List.singleton_append, ← htext, hfirst] at hlong
    have hlength := congrArg List.length hlong
    have hshort := (trimRight_isPrefix (c :: s)).length_le
    simp only [List.length_append, List.length_singleton] at hlength
    omega
  | cons g gs =>
    rw [List.intercalate_cons_cons, List.append_assoc, List.singleton_append] at htext
    have hsame := eq_of_trimRight_eq hfirst htext
    refine closed_of_head? (x := x) ?_
    rw [hf, hsame]
    rfl

/-- A terminated text is one statement of its script exactly if it is closed and its lines stay as
they are. -/
theorem split_terminated_iff {s : String} (hne : s.toList ≠ []) (ht : Trimmed s.toList)
    (hhead : ∀ c ∈ s.toList.head?, c ≠ ';') : split (s ++ ";") = [s] ↔ Closed s.toList ∧
      (∀ l ∈ lines (s ++ ";").toList, isComment l = false) ∧
      ∀ c ∈ s.toList, isLineBreak c = true → c = '\n' := by
  have htext : (s ++ ";").toList = s.toList ++ [';'] := String.toList_append
  constructor
  · intro h
    have hparts : statementsOf (body (s.toList ++ [';'])) = [s.toList] := by
      rw [split, htext, List.map_eq_singleton_iff] at h
      obtain ⟨t, ht, rfl⟩ := h
      rw [ht, String.toList_ofList]
    -- the dashes of a comment line would be missing
    have hcomment : ∀ l ∈ lines (s.toList ++ [';']), isComment l = false := by
      refine isComment_of_count ?_
      rw [← count_statementsOf (by decide) (by decide), hparts]
      simp
    have hends : EndsInLine (s.toList ++ [';']) := by
      rw [EndsInLine, List.getLast?_concat]
      exact fun c hc => by cases hc; decide
    rw [body_eq_relined hends hcomment] at hparts
    have hfeeds : ∀ c ∈ s.toList, isLineBreak c = true → c = '\n' := by
      rw [statementsOf_relined, List.map_eq_singleton_iff] at hparts
      obtain ⟨t, -, hrelined⟩ := hparts
      rw [← hrelined]
      exact fun c => eq_newline_of_mem_relined
    have hsame : relined (s.toList ++ [';']) = s.toList ++ [';'] :=
      relined_eq_self (List.forall_mem_append.2 ⟨hfeeds, List.forall_mem_singleton.2 (by decide)⟩)
    rw [hsame] at hparts
    obtain ⟨c, r, hs⟩ := List.exists_cons_of_ne_nil hne
    rw [hs] at ht hhead hparts ⊢
    refine ⟨closed_of_statementsOf (x := []) ⟨ht.1 c rfl, hhead c rfl⟩ ?_, ?_, ?_⟩
    · rw [hparts, trim_eq_self ht]
      rfl
    · rwa [htext]
    · rwa [hs] at hfeeds
  · rintro ⟨hclosed, hcomment, hfeeds⟩
    rw [(split_closed hclosed ht hne hcomment).1, relined_eq_self hfeeds, String.ofList_toList]

/-- Two lines of a script that are no comments. -/
theorem body_lines {first second : String} (h : ∀ l ∈ [first.toList, second.toList],
    Unbroken l ∧ l ≠ [] ∧ isComment l = false) :
    body (first ++ "\n" ++ second).toList = first.toList ++ '\n' :: second.toList := by
  have hscript : (first ++ "\n" ++ second).toList =
      ['\n'].intercalate ([] ++ [first.toList, second.toList]) := by
    rw [List.nil_append, List.intercalate_cons_cons, List.intercalate_singleton,
      String.toList_append, String.toList_append]
    rfl
  rw [hscript, body_intercalate (List.forall_mem_nil _) h, List.intercalate_cons_cons,
    List.intercalate_singleton, List.append_assoc]
  rfl

/-- Of two statements on lines of their own, the second of them closed, the script has both if and
only if the first is closed too. -/
theorem split_lines_iff {first second : String} {c : Char} {s t : List Char}
    (hfirst : first.toList = c :: s ++ [';']) (hc : isBlank c = false ∧ c ≠ ';' ∧ c ≠ '-')
    (hsecond : second.toList = t ++ [';']) (ht : Closed t ∧ Trimmed t ∧ t ≠ [])
    (hdash : ∀ d ∈ t.head?, d ≠ '-') (hlines : Unbroken first.toList ∧ Unbroken second.toList) :
    split (first ++ "\n" ++ second) = [String.ofList (trim (c :: s)), String.ofList t] ↔
      Closed (c :: s) := by
  obtain ⟨hclosed, htrimmed, hne⟩ := ht
  have hhead : ∀ d ∈ (c :: s).head?, isBlank d = false := fun d hd => by
    cases hd
    exact hc.1
  have hothers : ∀ l ∈ [first.toList, second.toList], Unbroken l ∧ l ≠ [] ∧ isComment l = false := by
    rw [List.forall_mem_cons, List.forall_mem_singleton]
    rw [hfirst, hsecond] at hlines ⊢
    refine ⟨⟨hlines.1, by simp, ?_⟩, hlines.2, by simp, ?_⟩
    · exact isComment_of_trimmed (trimmed_terminated (List.cons_ne_nil c s) hhead) fun d hd => by
        cases hd
        exact hc.2.2
    · refine isComment_of_trimmed (trimmed_terminated hne htrimmed.1) fun d hd => hdash d ?_
      rwa [List.head?_append_of_ne_nil _ hne] at hd
  have hbody : body (first ++ "\n" ++ second).toList = c :: s ++ ';' :: '\n' :: (t ++ [';']) := by
    rw [body_lines hothers, hfirst, hsecond, List.append_assoc]
    rfl
  have hlast : statementsOf ('\n' :: (t ++ [';'])) = [t] := by
    rw [statementsOf_newline, statementsOf_closed hclosed htrimmed hne, statementsOf_nil]
  have hparts : [String.ofList (trim (c :: s)), String.ofList t] =
      [trim (c :: s), t].map String.ofList := rfl
  rw [split, hbody, hparts, List.map_inj_right fun _ _ => String.ofList_inj.1]
  constructor
  · intro h
    exact closed_of_statementsOf ⟨hc.1, hc.2.1⟩ (congrArg List.head? h)
  · intro h
    have htrim : trim (c :: s) ≠ [] := by
      rw [trim, trimLeft_eq_self hhead]
      exact trimRight_ne_nil List.mem_cons_self hc.1
    rw [statementsOf_cut h htrim, hlast]

end TableDraft.Script
