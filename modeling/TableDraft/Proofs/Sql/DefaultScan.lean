import TableDraft.Proofs.Script.Words
import TableDraft.Proofs.Sql.ColumnDefinition

namespace TableDraft

namespace Text

theorem isLetter_of_isDigit {c : Char} (h : isDigit c = true) : isLetter c = false := by
  have hapart : rangesApart digitRanges letterRanges = true := by
    decide +kernel
  unfold isDigit at h
  unfold isLetter
  split at h
  next hlow =>
    simp only [isAsciiDigit, Bool.and_eq_true, decide_eq_true_eq] at h
    simp only [hlow, if_true, isAsciiLetter, Bool.or_eq_false_iff, Bool.and_eq_false_iff,
      decide_eq_false_iff_not]
    omega
  next hhigh =>
    rw [if_neg hhigh]
    exact inRanges_eq_false hapart h

/-- A text that begins with `w` in any case has the letters of `w` at its start. -/
theorem exists_of_afterWord? {w s r : List Char} (h : afterWord? w s = some r) :
    ∃ v, s = v ++ r ∧ List.Forall₂ (fun k c => sameLetter k c = true) w v := by
  induction w generalizing s with
  | nil =>
    cases h
    exact ⟨[], rfl, .nil⟩
  | cons k w ih =>
    cases s with
    | nil => cases h
    | cons c s =>
      rw [afterWord?] at h
      split at h
      next hc =>
        obtain ⟨v, rfl, hv⟩ := ih h
        exact ⟨c :: v, rfl, .cons hc hv⟩
      next => cases h

theorem exists_sameLetter {w v : List Char} (h : List.Forall₂ (fun k c => sameLetter k c = true) w v) :
    ∀ c ∈ v, ∃ k ∈ w, sameLetter k c = true := by
  induction h with
  | nil => exact List.forall_mem_nil _
  | @cons k c w v hc _ ih =>
    refine List.forall_mem_cons.2 ⟨⟨k, List.mem_cons_self, hc⟩, fun d hd => ?_⟩
    obtain ⟨j, hj, hsame⟩ := ih d hd
    exact ⟨j, List.mem_cons_of_mem k hj, hsame⟩

end Text

namespace Script
open TableDraft.Text TableDraft.Sql

/-- A character that the scan takes alone, wherever it stands. -/
def isMark (c : Char) : Bool :=
  !startsWord c && !isQuote c && c != ';'

theorem takes_marks {s : List Char} (h : ∀ c ∈ s, isMark c = true) (depth : Nat)
    (rest : List Char) : Takes depth s depth rest := by
  induction s with
  | nil => exact takes_nil depth rest
  | cons c s ih =>
    obtain ⟨hc, hs⟩ := List.forall_mem_cons.1 h
    simp only [isMark, Bool.and_eq_true, Bool.not_eq_true', bne_iff_ne] at hc
    exact (takes_mark (s ++ rest) hc.1.1 hc.1.2 (.inl hc.2)).append (ih hs)

theorem semicolon_not_mem_of_marks {s : List Char} (h : ∀ c ∈ s, isMark c = true) : ';' ∉ s :=
  fun hc => absurd (h ';' hc) (by decide)

theorem isMark_of_isDigit {c : Char} (h : isDigit c = true) : isMark c = true := by
  have hne : ∀ d, isDigit d = false → c ≠ d := by
    rintro d hd rfl
    rw [hd] at h
    cases h
  simp [isMark, startsWord, isQuote, isLetter_of_isDigit h, hne '_' (by decide), hne ';' (by decide),
    hne apostrophe (by decide), hne '"' (by decide), hne backQuote (by decide)]

end Script

namespace Sql
open TableDraft.Text TableDraft.Script

theorem isDigit_of_allDigits {s : List Char} (h : allDigits s = true) : ∀ c ∈ s, isDigit c = true := by
  rw [allDigits, Bool.and_eq_true] at h
  exact List.all_eq_true.1 h.2

/-- Of a run of digits only what stands behind it can be anything else. -/
theorem isMark_of_dropWhile {u r : List Char} (hu : u.dropWhile isDigit = r)
    (hr : ∀ c ∈ r, isMark c = true) : ∀ c ∈ u, isMark c = true := by
  rw [← List.takeWhile_append_dropWhile (p := isDigit) (l := u), hu, List.forall_mem_append]
  exact ⟨fun c hc => isMark_of_isDigit (List.mem_takeWhile_imp hc), hr⟩

theorem isMark_of_isNumber {s : List Char} (h : isNumber s = true) : ∀ c ∈ s, isMark c = true := by
  unfold isNumber at h
  dsimp only at h
  split at h
  next hnil =>
    have hmarks := isMark_of_dropWhile hnil (List.forall_mem_nil _)
    split at hmarks
    · exact List.forall_mem_cons.2 ⟨by decide, hmarks⟩
    · exact List.forall_mem_cons.2 ⟨by decide, hmarks⟩
    · exact hmarks
  next r hpoint =>
    rw [Bool.and_eq_true] at h
    have hdigits : ∀ c ∈ r, isMark c = true := fun c hc =>
      isMark_of_isDigit (isDigit_of_allDigits h.2 c hc)
    have hmarks := isMark_of_dropWhile hpoint (List.forall_mem_cons.2 ⟨by decide, hdigits⟩)
    split at hmarks
    · exact List.forall_mem_cons.2 ⟨by decide, hmarks⟩
    · exact List.forall_mem_cons.2 ⟨by decide, hmarks⟩
    · exact hmarks
  next => cases h

theorem isMark_of_isPrecision {s : List Char} (h : isPrecision s = true) :
    (∀ c ∈ s, isMark c = true) ∧ atWordEnd s = true := by
  unfold isPrecision at h
  split at h
  next => exact ⟨List.forall_mem_nil _, rfl⟩
  next r =>
    rw [Bool.and_eq_true, beq_iff_eq, List.all_eq_true] at h
    obtain ⟨hlast, hdigits⟩ := h
    obtain ⟨d, rfl⟩ := List.getLast?_eq_some_iff.1 hlast
    rw [List.dropLast_concat] at hdigits
    refine ⟨List.forall_mem_cons.2 ⟨by decide, List.forall_mem_append.2 ⟨fun c hc => ?_, ?_⟩⟩,
      by rfl⟩
    · exact isMark_of_isDigit (hdigits c hc)
    · exact List.forall_mem_singleton.2 (by decide)
  next => cases h

/-- The letters with which the known expressions begin. -/
def leadingLetters : List Char :=
  "CULON".toList

theorem of_leadingLetters {k c : Char} (hk : k ∈ leadingLetters) (h : sameLetter k c = true) :
    upperChar c = [k] ∧ startsWord c = true := by
  have hboth : (leadingLetters.all fun k => upperChar k == [k] && startsWord k &&
      (upperChar (lowerAsciiChar k) == [k]) && startsWord (lowerAsciiChar k)) = true := by
    decide
  have hk' := List.all_eq_true.1 hboth k hk
  simp only [Bool.and_eq_true, beq_iff_eq] at hk'
  have hc : c = k ∨ c = lowerAsciiChar k := by
    have hnone : k ≠ 'I' ∧ k ≠ 'S' ∧ k ≠ 'K' := by
      refine ⟨?_, ?_, ?_⟩ <;> rintro rfl <;> exact absurd hk (by decide)
    simp only [sameLetter, beq_eq_false_iff_ne.2 hnone.1, beq_eq_false_iff_ne.2 hnone.2.1,
      beq_eq_false_iff_ne.2 hnone.2.2, Bool.false_and, Bool.or_false, Bool.or_eq_true,
      beq_iff_eq] at h
    exact h.imp_right Eq.symm
  rcases hc with rfl | rfl
  · exact ⟨hk'.1.1.1, hk'.1.1.2⟩
  · exact ⟨hk'.1.2, hk'.2⟩

theorem expressionWords_letters : ∀ w ∈ expressionWords, ∃ a b t, w.toList = a :: b :: t ∧
    a ∈ leadingLetters ∧ b ∈ leadingLetters ∧ [a, b] ∉ blockWords.map (List.take 2) ∧
    (w.toList.all fun k => isWordChar k && isWordChar (lowerAsciiChar k)) = true := by
  intro w hw
  simp only [expressionWords, List.mem_cons, List.not_mem_nil, or_false] at hw
  rcases hw with rfl | rfl | rfl | rfl | rfl | rfl
  all_goals exact ⟨_, _, _, rfl, by decide, by decide, by decide, by decide⟩

/-- A known expression in any case is a word that counts no block, with its precision behind it. -/
theorem exists_of_isExpression {s : List Char} (h : isExpression s = true) : ∃ v r, s = v ++ r ∧
    IsWord v = true ∧ upper v ∉ blockWords ∧ isPrecision r = true := by
  obtain ⟨w, hw, hs⟩ := List.any_eq_true.1 h
  obtain ⟨a, b, t, hletters, ha, hb, hother, hword⟩ := expressionWords_letters w hw
  split at hs
  next r hafter =>
    obtain ⟨v, rfl, hv⟩ := exists_of_afterWord? hafter
    have hchars : ∀ c ∈ v, isWordChar c = true := by
      intro c hc
      obtain ⟨k, hk, hsame⟩ := exists_sameLetter hv c hc
      exact isWordChar_of_same (List.all_eq_true.1 hword k hk) hsame
    rw [hletters] at hv
    obtain _ | @⟨_, c, _, _, hc, hv⟩ := hv
    obtain _ | @⟨_, d, _, v, hd, -⟩ := hv
    obtain ⟨hupper, hstart⟩ := of_leadingLetters ha hc
    refine ⟨c :: d :: v, r, rfl, ?_, ?_, hs⟩
    · rw [IsWord, hstart, Bool.true_and, List.all_eq_true]
      exact (List.forall_mem_cons.1 hchars).2
    · intro hmem
      have htake : (upper (c :: d :: v)).take 2 = [a, b] := by
        simp [upper, hupper, (of_leadingLetters hb hd).1]
      exact hother (htake ▸ List.mem_map_of_mem hmem)
  next => cases hs

theorem whole_number {s : List Char} (h : isNumber s = true) : Whole s ∧ ';' ∉ s :=
  ⟨fun rest _ => takes_marks (isMark_of_isNumber h) 0 rest,
    semicolon_not_mem_of_marks (isMark_of_isNumber h)⟩

theorem whole_expression {s : List Char} (h : isExpression s = true) : Whole s ∧ ';' ∉ s := by
  obtain ⟨v, r, rfl, hword, hblock, hprecision⟩ := exists_of_isExpression h
  obtain ⟨hmarks, hends⟩ := isMark_of_isPrecision hprecision
  refine ⟨fun rest hr => ?_, ?_⟩
  · have hrest : atWordEnd (r ++ rest) = true := by
      cases r with
      | nil => exact atWordEnd_of_atBreak hr
      | cons c r => exact hends
    exact (takes_word hword hrest (wordLexeme_of_not_mem hblock 0 _)).append (takes_marks hmarks 0 rest)
  · rw [List.mem_append, not_or]
    refine ⟨fun hc => ?_, semicolon_not_mem_of_marks hmarks⟩
    exact absurd (isWordChar_of_isWord hword ';' hc) (by decide)

theorem whole_truthWord {s : List Char} (h : isTruthWord s = true) : Whole s ∧ ';' ∉ s := by
  have hword : upper s = "TRUE".toList ∨ upper s = "FALSE".toList := by
    simpa [isTruthWord] using h
  have hsigns : ∀ c, upperChar c = [c] → c ∈ s → c ∈ "TRUE".toList ++ "FALSE".toList := by
    intro c hc hmem
    have hupper : c ∈ upper s := List.mem_flatMap.2 ⟨c, hmem, hc ▸ List.mem_cons_self⟩
    rcases hword with hs | hs <;> rw [hs] at hupper
    · exact List.mem_append_left _ hupper
    · exact List.mem_append_right _ hupper
  have hsemicolon : ';' ∉ s := fun hmem => absurd (hsigns ';' (by decide) hmem) (by decide)
  have hplain : Plain s := by
    refine ⟨fun c hc => ?_, hsemicolon, ?_, ?_⟩
    · rw [Bool.eq_false_iff]
      intro hq
      simp only [isQuote, Bool.or_eq_true, beq_iff_eq] at hq
      obtain (rfl | rfl) | rfl := hq
      all_goals exact absurd (hsigns _ (by decide) hc) (by decide)
    all_goals rcases hword with hs | hs <;> rw [hs] <;> decide
  exact ⟨whole_plain hplain, hsemicolon⟩

/-- Written with quotes or parentheses of its own, or as bit and hexadecimal literals begin. -/
def bringsMarks (s : List Char) : Bool :=
  isQuoted s || isParenthesized s || isBitLiteral s

/-- The literal of a default without marks and backslashes of its own is taken whole. -/
theorem whole_defaultLiteral {value : Option String} {nullable : Bool}
    (h : ∀ v ∈ value, bringsMarks (trim v.toList) = false ∧ '\\' ∉ v.toList) {d : String}
    (hd : defaultLiteral? value nullable = some d) :
    Whole d.toList ∧ EndsVisibly d.toList ∧ d.toList ≠ [] := by
  obtain ⟨hne, hlast⟩ := getLast?_defaultLiteral hd
  suffices hwhole : Whole d.toList ∧ d.toList.getLast? ≠ some ';' by
    refine ⟨hwhole.1, fun c hc => ⟨hlast c hc, ?_⟩, hne⟩
    rintro rfl
    exact hwhole.2 hc
  obtain ⟨v, hv, -, ⟨-, -, rfl⟩ | ⟨-, hd⟩⟩ := defaultLiteral?_eq_some.1 hd
  · exact ⟨whole_plain (plain_clauseWords _ (by decide)), by decide⟩
  obtain ⟨hmarks, hslash⟩ := h v hv
  rw [hd]
  split
  next hstands =>
    have hkind : Whole (trim v.toList) ∧ ';' ∉ trim v.toList := by
      simp only [standsAlone, Bool.or_eq_true] at hstands
      simp only [bringsMarks, Bool.or_eq_false_iff] at hmarks
      rcases hstands with ((((hs | hs) | hs) | hs) | hs) | hs
      · exact whole_number hs
      · exact whole_expression hs
      · exact whole_truthWord hs
      all_goals simp_all
    exact ⟨hkind.1, fun hc => hkind.2 (List.mem_of_getLast? hc)⟩
  next =>
    have hslash : '\\' ∉ trim v.toList := fun m => hslash ((trim_isInfix _).subset m)
    refine ⟨whole_quotedString hslash, fun hc => ?_⟩
    exact (endsVisibly_quoted _ (by decide) ';' hc).2 rfl

end Sql

end TableDraft
