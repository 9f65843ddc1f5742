import TableDraft.Proofs.Script.Words
import TableDraft.Proofs.Text.Relined
import TableDraft.Proofs.Text.Words

namespace TableDraft.Script
open TableDraft.Text TableDraft.Sql

theorem following?_relined (s : List Char) : following? (relined s) =
    (following? s).map fun f => ⟨relined f.gap, f.word, relined f.rest⟩ := by
  have hgap := span_relined_blank s
  have hword := span_relined_word (s.dropWhile isBlank)
  have hempty : (relined (s.takeWhile isBlank)).isEmpty = (s.takeWhile isBlank).isEmpty := by
    rw [Bool.eq_iff_iff, List.isEmpty_iff, List.isEmpty_iff, relined_eq_nil]
  simp only [following?, hgap, hword, hempty]
  split <;> rfl

theorem afterWord?_relined {word : List Char}
    (hword : ∀ k ∈ word, ∀ c, sameLetter k c = true → isWordChar c = true) (s : List Char) :
    afterWord? word (relined s) = (afterWord? word s).map relined := by
  induction word generalizing s with
  | nil => rfl
  | cons k ks ih =>
    have hbreak : ∀ c, isLineBreak c = true → ¬sameLetter k c = true := by
      intro c hc hsame
      have hw := hword k List.mem_cons_self c hsame
      rw [isWordChar_of_isLineBreak hc] at hw
      cases hw
    cases s with
    | nil => rfl
    | cons c r =>
      cases hc : isLineBreak c with
      | false =>
        rw [relined_cons r hc, afterWord?, afterWord?]
        split
        · exact ih (fun j hj => hword j (List.mem_cons_of_mem k hj)) r
        · rfl
      | true =>
        have hhead : (relined (c :: r)).head? = some '\n' := by
          rw [head?_relined, List.head?_cons, Option.map_some, if_pos hc]
        obtain ⟨u, hu⟩ := List.head?_eq_some_iff.1 hhead
        rw [hu, afterWord?, if_neg (hbreak '\n' (by decide)), afterWord?, if_neg (hbreak c hc)]
        rfl

theorem startsTransaction_relined (s : List Char) :
    startsTransaction (relined s) = startsTransaction s := by
  unfold startsTransaction
  rw [(span_relined_blank s).2]
  cases hs : s.dropWhile isBlank with
  | nil => rfl
  | cons c r =>
    have hc : isLineBreak c = false :=
      isLineBreak_of_not_blank (head?_dropWhile isBlank s c (by rw [hs]; rfl))
    have hafter := afterWord?_relined isWordChar_of_sameLetter (c :: r)
    rw [relined_cons r hc] at hafter ⊢
    dsimp only
    rw [hafter]
    cases afterWord? "WORK".toList (c :: r) with
    | none => rfl
    | some x =>
      rw [Option.map_some]
      dsimp only
      rw [atWordEnd_relined]

theorem head?_literal (q : Char) (s : List Char) : (literal q s).1.head? = s.head? := by
  fun_induction literal q s <;> simp_all

/-- A literal ends in its quote, or else the text ends. -/
theorem getLast?_literal (q : Char) (s : List Char) :
    (literal q s).1.getLast? = some q ∨ (literal q s).2 = [] := by
  fun_induction literal q s with
  | case1 | case2 => exact .inr rfl
  | case3 c d r h inside rest hlit ih | case4 r inside rest hlit h ih =>
    rw [hlit] at ih
    exact ih.imp_left fun h => by simp [List.getLast?_cons, h]
  | case5 d r hd h => exact .inl rfl
  | case6 c d r h hc inside rest hlit ih =>
    rw [hlit] at ih
    exact ih.imp_left fun h => by simp [List.getLast?_cons, h]

theorem literal_relinedChar {q c : Char} (next : Option Char) (s : List Char) (hn : '\n' ≠ q)
    (hc : c ≠ q) (hb : c ≠ '\\' ∨ q = backQuote) : literal q (relinedChar c next ++ s) =
      (relinedChar c next ++ (literal q s).1, (literal q s).2) := by
  unfold relinedChar
  split
  · rfl
  · split
    · exact literal_cons s hn (.inl (by decide))
    · exact literal_cons s hc hb

/-- A backslash whose carriage return is gone stands in front of the line feed. -/
theorem literal_escape_relined {q : Char} (hn : '\n' ≠ q) (hq : q ≠ backQuote) (c : Char)
    (s : List Char) : literal q ('\\' :: relined (c :: s)) =
      ('\\' :: (relinedChar c s.head? ++ (literal q (relined s)).1), (literal q (relined s)).2) := by
  rw [relined, relinedChar]
  split
  next h =>
    have hfirst : (relined s).head? = some '\n' := by
      rw [head?_relined, h.2]
      rfl
    obtain ⟨u, hu⟩ := List.head?_eq_some_iff.1 hfirst
    rw [List.nil_append, hu, literal_escape hq, literal_cons u hn (.inl (by decide))]
    rfl
  next => exact literal_escape hq _ (relined s)

theorem literal_relined {q : Char} (hq : isLineBreak q = false) (s : List Char) :
    literal q (relined s) = (relined (literal q s).1, relined (literal q s).2) := by
  have hn : '\n' ≠ q := by
    rintro rfl
    exact absurd hq (by decide)
  fun_induction literal q s with
  | case1 => rfl
  | case2 c => simp [relined, relinedChar, literal]
  | case3 c d r h inside rest hlit ih =>
    obtain ⟨rfl, hb⟩ := h
    have hhead := head?_literal q r
    rw [hlit] at ih hhead
    rw [relined_cons (d :: r) (by decide), literal_escape_relined hn hb, ih, ← hhead,
      relined_cons (d :: inside) (by decide)]
    rfl
  | case4 r inside rest hlit h ih =>
    rw [hlit] at ih
    simp [relined_cons _ hq, literal, h, ih]
  | case5 d r hd h =>
    have hhead : ∀ c ∈ (relined (d :: r)).head?, c ≠ q := by
      intro c hc
      rw [head?_relined, List.head?_cons, Option.map_some, Option.mem_some_iff] at hc
      rw [← hc]
      split
      · exact hn
      · exact hd
    have hback : q ≠ '\\' := by
      rintro rfl
      exact h ⟨rfl, by decide⟩
    rw [relined_cons _ hq, relined_cons [] hq]
    exact Closes.quote.literal hhead hback
  | case6 c d r h hc inside rest hlit ih =>
    have hhead := head?_literal q (d :: r)
    have hplain := (Decidable.not_and_iff_not_or_not.1 h).imp_right Decidable.not_not.1
    rw [hlit] at ih hhead
    have htext : relined (c :: d :: r) = relinedChar c (d :: r).head? ++ relined (d :: r) := rfl
    rw [htext, literal_relinedChar _ _ hn hc hplain, ih, ← hhead]
    rfl

def Lexeme.relined (x : Lexeme) : Lexeme :=
  ⟨Text.relined x.taken, Text.relined x.rest, x.depth⟩

theorem unbroken_wordChars {w : List Char} (h : ∀ c ∈ w, isWordChar c = true) : Unbroken w :=
  fun c hc => isLineBreak_of_not_blank (isBlank_of_isWordChar (h c hc))

theorem relined_closing {w gap v rest : List Char} (hw : Unbroken w) (h : Trails gap v rest) :
    relined (w ++ gap ++ v) = w ++ relined gap ++ v := by
  have hv := unbroken_wordChars h.wordChars
  rw [relined_append, relined_append, relined_unbroken hw, relined_unbroken hv]
  · exact apart_of_getLast? (fun c hc => hw c (List.mem_of_getLast? hc)) gap
  · exact apart_of_head? _ fun c hc => hv c (List.mem_of_mem_head? hc)

theorem wordLexeme_relined {w : List Char} (hw : ∀ c ∈ w, isWordChar c = true) (depth : Nat)
    (r : List Char) : wordLexeme depth w (relined r) = (wordLexeme depth w r).relined ∧
      Apart (wordLexeme depth w r).taken (wordLexeme depth w r).rest := by
  have hself := relined_unbroken (unbroken_wordChars hw)
  have hrest : Apart w r := apart_of_getLast? (fun c hc =>
    unbroken_wordChars hw c (List.mem_of_getLast? hc)) r
  unfold wordLexeme
  dsimp only
  rw [startsTransaction_relined, following?_relined]
  split
  · exact ⟨by rw [Lexeme.relined, hself], hrest⟩
  split
  · exact ⟨by rw [Lexeme.relined, hself], hrest⟩
  split
  · cases hf : following? r with
    | none => exact ⟨by rw [Lexeme.relined, hself]; rfl, hrest⟩
    | some f =>
      obtain ⟨-, htrails⟩ := trails_of_following? hf
      have hclosing := relined_closing (unbroken_wordChars hw) htrails
      have hapart : Apart (w ++ f.gap ++ f.word) f.rest := by
        refine apart_of_getLast? (fun c hc => ?_) _
        rw [List.getLast?_append_of_ne_nil _ htrails.word_ne_nil] at hc
        exact unbroken_wordChars htrails.wordChars c (List.mem_of_getLast? hc)
      simp only [Option.map_some]
      split
      · exact ⟨by rw [Lexeme.relined, hclosing], hapart⟩
      split
      · exact ⟨by rw [Lexeme.relined, hclosing], hapart⟩
      · exact ⟨by rw [Lexeme.relined, hself], hrest⟩
  · exact ⟨by rw [Lexeme.relined, hself], hrest⟩

theorem lexeme_relined {c : Char} (hc : isLineBreak c = false) (depth : Nat) (r : List Char) :
    lexeme depth c (relined r) = (lexeme depth c r).relined ∧
      Apart (lexeme depth c r).taken (lexeme depth c r).rest := by
  unfold lexeme
  rw [(span_relined_word r).1, (span_relined_word r).2, literal_relined hc]
  split
  · refine ⟨?_, ?_⟩
    · rw [Lexeme.relined, relined_cons _ hc]
    · rcases getLast?_literal c r with hlast | hrest
      · refine apart_of_getLast? (fun d hd => ?_) _
        rw [List.getLast?_cons, hlast] at hd
        cases hd
        exact hc
      · dsimp only
        rw [hrest]
        exact fun _ => nofun
  split
  next hstart =>
    have hword : ∀ d ∈ c :: r.takeWhile isWordChar, isWordChar d = true :=
      List.forall_mem_cons.2 ⟨isWordChar_of_startsWord hstart, fun _ => List.mem_takeWhile_imp⟩
    exact wordLexeme_relined hword depth _
  next =>
    refine ⟨?_, apart_of_getLast? (fun d hd => ?_) _⟩
    · rw [Lexeme.relined, relined_cons _ hc]
      rfl
    · cases hd
      exact hc

theorem head?_lexeme (depth : Nat) (c : Char) (r : List Char) :
    (lexeme depth c r).taken.head? = some c := by
  unfold lexeme wordLexeme
  dsimp only
  repeat' split
  all_goals rfl

/-- The first fragment begins as the text does, or else it is empty in front of a semicolon. -/
theorem head?_fragments_cons {depth : Nat} {c : Char} {r f : List Char} {fs : List (List Char)}
    (h : fragments depth (c :: r) = f :: fs) : f.head? = some c ∨ c = ';' ∧ f = [] := by
  rw [fragments] at h
  split at h
  next hc =>
    cases h
    exact .inr ⟨hc.1, rfl⟩
  next =>
    obtain ⟨g, gs, hg⟩ := List.exists_cons_of_ne_nil
      (fragments_ne_nil (lexeme depth c r).depth (lexeme depth c r).rest)
    dsimp only at h
    rw [hg] at h
    cases h
    rw [List.head?_append, head?_lexeme]
    exact .inl rfl

/-- The first fragment has a line feed at its start if the text has one. -/
theorem head?_fragments {depth : Nat} {s f : List Char} {fs : List (List Char)}
    (h : fragments depth s = f :: fs) : f.head? = some '\n' ↔ s.head? = some '\n' := by
  cases s with
  | nil =>
    rw [fragments] at h
    cases h
    rfl
  | cons c r =>
    rcases head?_fragments_cons h with hc | ⟨rfl, rfl⟩
    · rw [hc]
      rfl
    · simp

theorem takes_relinedChar {c : Char} (hc : isLineBreak c = true) (next : Option Char) (depth : Nat)
    (rest : List Char) : Takes depth (relinedChar c next) depth rest := by
  unfold relinedChar
  rw [if_pos hc]
  split
  · exact takes_nil depth rest
  · exact takes_mark rest (by decide) (by decide) (.inl (by decide))

/-- The scan finds the same fragments whatever the line breaks are. -/
theorem fragments_relined (depth : Nat) (s : List Char) :
    fragments depth (relined s) = (fragments depth s).map relined := by
  fun_induction fragments depth s with
  | case1 => simp [relined, fragments]
  | case2 depth c r h ih =>
    obtain ⟨rfl, rfl⟩ := h
    rw [relined_cons r (by decide), fragments_semicolon, ih]
    rfl
  | case3 depth c r hn x ih =>
    obtain ⟨f, fs, hf⟩ := List.exists_cons_of_ne_nil (fragments_ne_nil x.depth x.rest)
    have hfirst := head?_fragments hf
    rw [hf] at ih ⊢
    -- a line break is a lexeme of its own, and no other lexeme ends within one
    cases hc : isLineBreak c with
    | false =>
      obtain ⟨hlexeme, hapart⟩ := lexeme_relined hc depth r
      have htaken : relined (x.taken ++ f) = relined x.taken ++ relined f :=
        relined_append fun ht hn => hapart ht (hfirst.1 hn)
      rw [relined_cons r hc, fragments, if_neg hn, hlexeme]
      simp only [onFirst, List.map_cons, htaken]
      exact congrArg (onFirst (relined x.taken)) ih
    | true =>
      have hquote := isQuote_of_isBlank (isBlank_of_isLineBreak hc)
      have hx : x = ⟨[c], r, depth⟩ :=
        lexeme_mark (startsWord_of_not_word (isWordChar_of_isLineBreak hc)) hquote depth r
      rw [hx] at hfirst ih ⊢
      have hchar : relinedChar c r.head? = relinedChar c f.head? :=
        relinedChar_congr fun _ => hfirst.symm
      rw [relined, takes_relinedChar hc, ih, hchar]
      rfl

/-- The statements of a text are the same with other line breaks, but for their own line breaks. -/
theorem statementsOf_relined (s : List Char) :
    statementsOf (relined s) = (statementsOf s).map relined := by
  have hcommute : trim ∘ relined = relined ∘ trim := funext trim_relined
  have hkept : (fun t : List Char => !t.isEmpty) ∘ relined = fun t => !t.isEmpty := by
    funext t
    rw [Function.comp_apply, Bool.eq_iff_iff]
    simp [relined_eq_nil]
  unfold statementsOf
  rw [fragments_relined, List.map_map, hcommute, ← List.map_map, List.filter_map, hkept]

theorem relined_semicolon (s x : List Char) :
    relined (s ++ ';' :: x) = relined s ++ ';' :: relined x := by
  rw [relined_append, relined_cons x (by decide)]
  exact apart_of_head? s fun c hc => by cases hc; decide

theorem statementsOf_relined_closed {s x : List Char} (hs : Closed s) (ht : Trimmed s) (hne : s ≠ [])
    (hx : relined x = x) : statementsOf (relined s ++ ';' :: x) = relined s :: statementsOf x := by
  rw [← hx, ← relined_semicolon, statementsOf_relined, statementsOf_closed hs ht hne, List.map_cons,
    statementsOf_relined]

theorem relined_body (script : List Char) : relined (body script) = body script :=
  relined_intercalate fun l hl => unbroken_lines script l (List.mem_of_mem_filter hl)

section
variable {s : List Char} (h : EndsInLine s) (hc : ∀ l ∈ lines s, isComment l = false)
include h hc

theorem body_eq_relined : body s = relined s := by
  have hall : (lines s).filter (fun l => !isComment l) = lines s :=
    List.filter_eq_self.2 fun l hl => by simp [hc l hl]
  rw [body, hall, intercalate_lines h]

/-- Whole lines at the start of a script stay there, if none of them is a comment. -/
theorem body_append (hne : s ≠ []) (r : List Char) :
    (body (s ++ '\n' :: r) = relined s ∧ body r = []) ∨
      body (s ++ '\n' :: r) = relined s ++ '\n' :: body r := by
  have hall : (lines s).filter (fun l => !isComment l) = lines s :=
    List.filter_eq_self.2 fun l hl => by simp [hc l hl]
  unfold body
  rw [lines_append h hne, List.filter_append, hall]
  cases (lines r).filter fun l => !isComment l with
  | nil => exact .inl ⟨by rw [List.append_nil, intercalate_lines h], rfl⟩
  | cons l ls =>
    refine .inr ?_
    rw [intercalate_append (lines_ne_nil hne) (List.cons_ne_nil l ls), intercalate_lines h]
    rfl

end

/-- A closed statement is what a script has at its start, with line feeds for its line breaks. -/
theorem split_closed {s : String} (hs : Closed s.toList) (ht : Trimmed s.toList) (hne : s.toList ≠ [])
    (hc : ∀ l ∈ lines (s ++ ";").toList, isComment l = false) :
    split (s ++ ";") = [String.ofList (relined s.toList)] ∧
      ∀ rest, split (s ++ ";" ++ "\n" ++ rest) = String.ofList (relined s.toList) :: split rest := by
  have htext : (s ++ ";").toList = s.toList ++ [';'] := String.toList_append
  have hends : EndsInLine (s ++ ";").toList := by
    rw [htext, EndsInLine, List.getLast?_concat]
    exact fun c hc => by cases hc; decide
  have hrelined : relined (s ++ ";").toList = relined s.toList ++ [';'] := by
    rw [htext]
    exact relined_semicolon s.toList []
  have halone : statementsOf (relined s.toList ++ [';']) = [relined s.toList] := by
    rw [statementsOf_relined_closed hs ht hne rfl, statementsOf_nil]
  refine ⟨?_, fun rest => ?_⟩
  · rw [split, body_eq_relined hends hc, hrelined, halone]
    rfl
  · have hscript : (s ++ ";" ++ "\n" ++ rest).toList = (s ++ ";").toList ++ '\n' :: rest.toList := by
      simp [String.toList_append]
    have hnonempty : (s ++ ";").toList ≠ [] := by
      simp [htext]
    unfold split
    rw [hscript]
    rcases body_append hends hc hnonempty rest.toList with ⟨hbody, hrest⟩ | hbody
    · rw [hbody, hrelined, halone, hrest, statementsOf_nil]
      rfl
    · have hfeed : relined ('\n' :: body rest.toList) = '\n' :: body rest.toList := by
        rw [relined_newline, relined_body]
      rw [hbody, hrelined, List.append_assoc, List.singleton_append,
        statementsOf_relined_closed hs ht hne hfeed, statementsOf_newline]
      rfl

end TableDraft.Script
