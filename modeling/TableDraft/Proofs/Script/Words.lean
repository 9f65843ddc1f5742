import TableDraft.Proofs.Script.Scan
import TableDraft.Proofs.Text.Runs

namespace TableDraft.Script
open TableDraft.Text TableDraft.Sql

theorem ne_semicolon_of_startsWord {c : Char} (h : startsWord c = true) : c ≠ ';' := by
  rintro rfl
  exact absurd h (by decide)

theorem isQuote_of_isWordChar {c : Char} (h : isWordChar c = true) : isQuote c = false := by
  rw [Bool.eq_false_iff]
  intro hq
  simp only [isQuote, Bool.or_eq_true, beq_iff_eq] at hq
  obtain (rfl | rfl) | rfl := hq <;> exact absurd h (by decide)

theorem isBlank_of_isQuote {c : Char} (h : isQuote c = true) : isBlank c = false := by
  simp only [isQuote, Bool.or_eq_true, beq_iff_eq] at h
  obtain (rfl | rfl) | rfl := h <;> decide

theorem isQuote_of_isBlank {c : Char} (h : isBlank c = true) : isQuote c = false := by
  rw [Bool.eq_false_iff]
  intro hq
  rw [isBlank_of_isQuote hq] at h
  cases h

/-- Word characters, the first of which may start a word. -/
def IsWord : List Char → Bool
  | [] => false
  | c :: r => startsWord c && r.all isWordChar

theorem isWordChar_of_isWord {w : List Char} (h : IsWord w = true) : ∀ c ∈ w, isWordChar c = true := by
  cases w with
  | nil => exact List.forall_mem_nil _
  | cons c r =>
    rw [IsWord, Bool.and_eq_true, List.all_eq_true] at h
    exact List.forall_mem_cons.2 ⟨isWordChar_of_startsWord h.1, h.2⟩

theorem ne_nil_of_isWord {w : List Char} (h : IsWord w = true) : w ≠ [] := by
  rintro rfl
  cases h

/-- A whole word is read at once. -/
theorem takes_word {depth after : Nat} {w rest p r : List Char} (hw : IsWord w = true)
    (hr : atWordEnd rest = true) (h : wordLexeme depth w rest = ⟨p, r, after⟩) :
    Takes depth p after r := by
  have happend := wordLexeme_append depth w rest
  rw [h] at happend
  match w with
  | c :: s =>
    obtain ⟨hc, hs⟩ := Bool.and_eq_true_iff.1 hw
    obtain ⟨htake, hdrop⟩ := span_run (List.all_eq_true.1 hs) (atWordEnd_iff.1 hr)
    refine takes_of_lexeme happend.symm (.inl (ne_semicolon_of_startsWord hc)) ?_
    have hq : isQuote c = false := isQuote_of_isWordChar (isWordChar_of_startsWord hc)
    have hstart : (isLetter c || c == '_') = true := hc
    rw [List.append_eq, lexeme, hq, hstart, htake, hdrop]
    exact h

/-- The words by which the scan counts blocks. -/
def blockWords : List (List Char) :=
  ["BEGIN".toList, "CASE".toList, "END".toList]

theorem wordLexeme_of_not_mem {w : List Char} (h : upper w ∉ blockWords) (depth : Nat)
    (rest : List Char) : wordLexeme depth w rest = ⟨w, rest, depth⟩ := by
  simp only [blockWords, List.mem_cons, List.not_mem_nil, or_false, not_or] at h
  obtain ⟨hbegin, hcase, hend⟩ := h
  unfold wordLexeme
  dsimp only
  rw [if_neg hbegin, if_neg hcase, if_neg fun e => hend e.1]

/-- `w` is a whole word in front of `rest`, and `k` in capitals. -/
structure Keyword (k w rest : List Char) : Prop where
  isWord : IsWord w = true
  capitals : upper w = k
  ends : atWordEnd rest = true

theorem takes_begin {w rest : List Char} (h : Keyword "BEGIN".toList w rest)
    (hb : startsTransaction rest = false) (depth : Nat) : Takes depth w (depth + 1) rest := by
  refine takes_word h.isWord h.ends ?_
  unfold wordLexeme
  dsimp only
  rw [if_pos h.capitals, if_neg (by simp [hb])]

theorem takes_case {w rest : List Char} (h : Keyword "CASE".toList w rest) (depth : Nat) :
    Takes depth w (depth + 1) rest := by
  refine takes_word h.isWord h.ends ?_
  unfold wordLexeme
  dsimp only
  rw [h.capitals, if_neg (by decide), if_pos rfl]

theorem wordLexeme_end {w : List Char} (h : upper w = "END".toList) (depth : Nat)
    (rest : List Char) : wordLexeme (depth + 1) w rest =
      match following? rest with
      | some f =>
        if flowWords.contains (upper f.word) then ⟨w ++ f.gap ++ f.word, f.rest, depth + 1⟩
        else if upper f.word = "CASE".toList then ⟨w ++ f.gap ++ f.word, f.rest, depth⟩
        else ⟨w, rest, depth⟩
      | none => ⟨w, rest, depth⟩ := by
  unfold wordLexeme
  dsimp only
  rw [h, if_neg (by decide), if_neg (by decide), if_pos ⟨rfl, Nat.succ_pos depth⟩]
  rfl

/-- Blanks and behind them a whole word, in front of `rest`. -/
structure Trails (gap w rest : List Char) : Prop where
  gap_ne_nil : gap ≠ []
  blank : ∀ c ∈ gap, isBlank c = true
  word_ne_nil : w ≠ []
  wordChars : ∀ c ∈ w, isWordChar c = true
  ends : atWordEnd rest = true

theorem following?_of_trails {gap w rest : List Char} (h : Trails gap w rest) :
    following? (gap ++ (w ++ rest)) = some ⟨gap, w, rest⟩ := by
  have hhead : ∀ c ∈ (w ++ rest).head?, isBlank c = false := by
    intro c hc
    rw [List.head?_append_of_ne_nil _ h.word_ne_nil] at hc
    exact isBlank_of_isWordChar (h.wordChars c (List.mem_of_mem_head? hc))
  obtain ⟨hgap, hword⟩ := span_run h.blank hhead
  obtain ⟨htake, hdrop⟩ := span_run h.wordChars (atWordEnd_iff.1 h.ends)
  simp [following?, hgap, hword, htake, hdrop, h.gap_ne_nil, h.word_ne_nil]

theorem trails_of_following? {s : List Char} {f : Following} (h : following? s = some f) :
    s = f.gap ++ (f.word ++ f.rest) ∧ Trails f.gap f.word f.rest := by
  refine ⟨?_, ?_⟩
  · rw [← List.append_assoc, following?_append h]
  unfold following? at h
  simp only at h
  split at h
  · cases h
  next hne =>
    rw [Bool.or_eq_true, not_or, List.isEmpty_iff, List.isEmpty_iff] at hne
    cases h
    refine ⟨hne.1, fun _ => List.mem_takeWhile_imp, hne.2, fun _ => List.mem_takeWhile_imp, ?_⟩
    exact atWordEnd_iff.2 (head?_dropWhile isWordChar (s.dropWhile isBlank))

/-- The words that `END` goes together with. -/
def closingWords : List (List Char) :=
  "CASE".toList :: flowWords

/-- An `END` in front of `s` is all there is of the end of a block. -/
def ClosesAlone (s : List Char) : Prop :=
  ∀ gap w rest, s = gap ++ (w ++ rest) → Trails gap w rest → upper w ∉ closingWords

theorem closesAlone_iff {s : List Char} : ClosesAlone s ↔
    ((following? s).all fun f => !closingWords.contains (upper f.word)) = true := by
  constructor
  · intro h
    cases hf : following? s with
    | none => rfl
    | some f =>
      obtain ⟨hs, htrails⟩ := trails_of_following? hf
      simpa using h _ _ _ hs htrails
  · rintro h gap w rest rfl htrails
    simpa [following?_of_trails htrails] using h

instance (s : List Char) : Decidable (ClosesAlone s) :=
  decidable_of_iff' _ closesAlone_iff

theorem closesAlone_of_head? {s : List Char} (h : ∀ c ∈ s.head?, isBlank c = false) :
    ClosesAlone s := by
  rintro gap w rest rfl htrails
  obtain ⟨c, r, rfl⟩ := List.exists_cons_of_ne_nil htrails.gap_ne_nil
  have hc := htrails.blank c List.mem_cons_self
  rw [h c rfl] at hc
  cases hc

theorem takes_end {w rest : List Char} (h : Keyword "END".toList w rest) (hr : ClosesAlone rest)
    (depth : Nat) : Takes (depth + 1) w depth rest := by
  refine takes_word h.isWord h.ends ?_
  rw [wordLexeme_end h.capitals]
  cases hf : following? rest with
  | none => rfl
  | some f =>
    obtain ⟨hrest, htrails⟩ := trails_of_following? hf
    have hother := hr _ _ _ hrest htrails
    rw [closingWords, List.mem_cons, not_or] at hother
    dsimp only
    rw [if_neg (by simpa using hother.2), if_neg hother.1]

/-- `END CASE` leaves the block that `CASE` has opened. -/
theorem takes_end_case {w gap v rest : List Char}
    (h : Keyword "END".toList w (gap ++ (v ++ rest))) (ht : Trails gap v rest)
    (hv : upper v = "CASE".toList) (depth : Nat) :
    Takes (depth + 1) (w ++ (gap ++ v)) depth rest := by
  refine takes_word h.isWord h.ends ?_
  rw [wordLexeme_end h.capitals, following?_of_trails ht]
  dsimp only
  rw [hv, if_neg (by decide), if_pos rfl, List.append_assoc]

/-- `END` with any other of its words leaves no block, as that word has opened none. -/
theorem takes_end_flow {w gap v rest : List Char}
    (h : Keyword "END".toList w (gap ++ (v ++ rest))) (ht : Trails gap v rest)
    (hv : upper v ∈ flowWords) {depth : Nat} (hd : 0 < depth) :
    Takes depth (w ++ (gap ++ v)) depth rest := by
  refine takes_word h.isWord h.ends ?_
  obtain ⟨d, rfl⟩ := Nat.exists_eq_succ_of_ne_zero (Nat.ne_of_gt hd)
  rw [wordLexeme_end h.capitals, following?_of_trails ht]
  dsimp only
  rw [if_pos (List.contains_iff_mem.2 hv), List.append_assoc]

theorem afterWord?_append {word x : List Char}
    (hword : ∀ k ∈ word, ∀ c, sameLetter k c = true → isWordChar c = true)
    (hx : atWordEnd x = true) (s : List Char) :
    afterWord? word (s ++ x) = (afterWord? word s).map (· ++ x) := by
  induction word generalizing s with
  | nil => rfl
  | cons k ks ih =>
    have hks := fun j hj => hword j (List.mem_cons_of_mem k hj)
    cases s with
    | nil =>
      cases x with
      | nil => rfl
      | cons c r =>
        -- a word that goes on in `x` would not end in front of it
        have hc : ¬sameLetter k c = true := by
          intro hsame
          simp [atWordEnd, hword k List.mem_cons_self c hsame] at hx
        have hnone : afterWord? (k :: ks) (c :: r) = none := by
          rw [afterWord?, if_neg hc]
        rw [List.nil_append, hnone]
        rfl
    | cons c r =>
      rw [List.cons_append, afterWord?, afterWord?]
      split
      · exact ih hks r
      · rfl

theorem eq_of_sameLetter {k c : Char} (h : sameLetter k c = true) :
    c = k ∨ c = lowerAsciiChar k ∨ c ∈ ['\u0130', '\u0131', '\u017F', '\u212A'] := by
  simp only [sameLetter, Bool.or_eq_true, Bool.and_eq_true, beq_iff_eq] at h
  rcases h with (((hsame | hlower) | ⟨-, hi | hi⟩) | ⟨-, hs⟩) | ⟨-, hk⟩
  · exact .inl hsame
  · exact .inr (.inl hlower.symm)
  all_goals
    subst c
    exact .inr (.inr (by decide))

theorem isWordChar_of_same {k c : Char}
    (hk : (isWordChar k && isWordChar (lowerAsciiChar k)) = true) (h : sameLetter k c = true) :
    isWordChar c = true := by
  have hothers : (['\u0130', '\u0131', '\u017F', '\u212A'].all isWordChar) = true := by
    decide +kernel
  rw [Bool.and_eq_true] at hk
  rcases eq_of_sameLetter h with rfl | rfl | hother
  · exact hk.1
  · exact hk.2
  · exact List.all_eq_true.1 hothers c hother

theorem isWordChar_of_sameLetter :
    ∀ k ∈ "WORK".toList, ∀ c, sameLetter k c = true → isWordChar c = true := by
  have hletters : ("WORK".toList.all fun k =>
      isWordChar k && isWordChar (lowerAsciiChar k)) = true := by
    decide
  exact fun k hk c => isWordChar_of_same (List.all_eq_true.1 hletters k hk)

/-- A blank behind a `BEGIN` is passed over. -/
theorem startsTransaction_cons {c : Char} (s : List Char) (h : isBlank c = true) :
    startsTransaction (c :: s) = startsTransaction s := by
  rw [startsTransaction, startsTransaction, List.dropWhile_cons_of_pos h]

/-- Where something visible stands behind a `BEGIN`, it does not matter what follows that. -/
theorem startsTransaction_append {s x : List Char} (h : startsTransaction s = false)
    (hx : atWordEnd x = true) : startsTransaction (s ++ x) = false := by
  unfold startsTransaction at *
  cases hs : s.dropWhile isBlank with
  | nil =>
    rw [hs] at h
    cases h
  | cons c r =>
    have hdrop : (s ++ x).dropWhile isBlank = c :: (r ++ x) := by
      rw [List.dropWhile_append, hs]
      rfl
    rw [hs] at h
    rw [hdrop]
    dsimp only at *
    rw [Bool.or_eq_false_iff] at *
    refine ⟨h.1, ?_⟩
    have happend := afterWord?_append isWordChar_of_sameLetter hx (c :: r)
    rw [List.cons_append] at happend
    rw [happend]
    cases ha : afterWord? "WORK".toList (c :: r) with
    | none => rfl
    | some rest =>
      rw [ha] at h
      have hne : rest ≠ [] := by
        rintro rfl
        exact absurd h.2 (by decide)
      simpa [atWordEnd_append_of_ne_nil hne] using h.2

end TableDraft.Script
