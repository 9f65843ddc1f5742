import TableDraft.Proofs.Script.Body
import TableDraft.Proofs.Text.Runs

namespace TableDraft.Text

/-- What becomes of a character in front of `next`. A carriage return goes with its line feed. -/
def relinedChar (c : Char) (next : Option Char) : List Char :=
  if c = '\r' ∧ next = some '\n' then [] else [if isLineBreak c then '\n' else c]

/-- The text with a line feed for each line break. -/
def relined : List Char → List Char
  | [] => []
  | c :: r => relinedChar c r.head? ++ relined r

theorem relinedChar_of_not_break {c : Char} (h : isLineBreak c = false) (next : Option Char) :
    relinedChar c next = [c] := by
  have hc : c ≠ '\r' := by
    rintro rfl
    exact absurd h (by decide)
  simp [relinedChar, hc, h]

theorem relinedChar_congr {c : Char} {m n : Option Char}
    (h : c = '\r' → (m = some '\n' ↔ n = some '\n')) : relinedChar c m = relinedChar c n := by
  simp only [relinedChar, and_congr_right h]

theorem relined_cons {c : Char} (r : List Char) (h : isLineBreak c = false) :
    relined (c :: r) = c :: relined r := by
  rw [relined, relinedChar_of_not_break h, List.singleton_append]

@[simp] theorem relined_newline (r : List Char) : relined ('\n' :: r) = '\n' :: relined r := rfl

theorem relined_unbroken {s : List Char} (h : Unbroken s) : relined s = s := by
  induction s with
  | nil => rfl
  | cons c r ih =>
    rw [relined_cons r (h c List.mem_cons_self), ih fun d hd => h d (List.mem_cons_of_mem c hd)]

/-- A text whose only line breaks are line feeds stays as it is. -/
theorem relined_eq_self {s : List Char} (h : ∀ c ∈ s, isLineBreak c = true → c = '\n') :
    relined s = s := by
  induction s with
  | nil => rfl
  | cons c r ih =>
    rw [relined, ih fun d hd => h d (List.mem_cons_of_mem c hd)]
    cases hc : isLineBreak c with
    | false => rw [relinedChar_of_not_break hc, List.singleton_append]
    | true =>
      obtain rfl := h c List.mem_cons_self hc
      simp [relinedChar, hc]

/-- No line break has its two characters one in `s` and one in `t`. -/
def Apart (s t : List Char) : Prop :=
  s.getLast? = some '\r' → t.head? ≠ some '\n'

theorem apart_of_getLast? {s : List Char} (h : ∀ c ∈ s.getLast?, isLineBreak c = false)
    (t : List Char) : Apart s t :=
  fun hs => absurd (h '\r' hs) (by decide)

theorem apart_of_head? (s : List Char) {t : List Char} (h : ∀ c ∈ t.head?, isLineBreak c = false) :
    Apart s t :=
  fun _ ht => absurd (h '\n' ht) (by decide)

theorem relined_append {s t : List Char} (h : Apart s t) :
    relined (s ++ t) = relined s ++ relined t := by
  induction s with
  | nil => rfl
  | cons c s ih =>
    cases s with
    | nil =>
      -- only the last character of `s` sees where `t` begins
      have hc : relinedChar c t.head? = relinedChar c none := by
        refine relinedChar_congr fun hc => ?_
        have hn := h (by rw [hc]; rfl)
        simp [hn]
      simp [relined, hc]
    | cons d s =>
      have ih := ih fun hs => h (by rwa [List.getLast?_cons_cons])
      have hc : relined (c :: (d :: s ++ t)) = relinedChar c (some d) ++ relined (d :: s ++ t) := rfl
      rw [List.cons_append, hc, ih, ← List.append_assoc]
      rfl

theorem head?_relined (s : List Char) :
    (relined s).head? = s.head?.map fun c => if isLineBreak c then '\n' else c := by
  induction s with
  | nil => rfl
  | cons c r ih =>
    rw [relined, relinedChar]
    split
    next h =>
      rw [List.nil_append, ih, h.2, h.1]
      rfl
    next => rfl

theorem relined_eq_nil {s : List Char} : relined s = [] ↔ s = [] := by
  rw [← List.head?_eq_none_iff, head?_relined, Option.map_eq_none_iff, List.head?_eq_none_iff]

theorem mem_relined {c : Char} {s : List Char} (h : c ∈ relined s) : c = '\n' ∨ c ∈ s := by
  induction s with
  | nil => cases h
  | cons d r ih =>
    rw [relined, List.mem_append, relinedChar] at h
    rcases h with h | h
    · split at h
      · cases h
      · rw [List.mem_singleton] at h
        subst h
        split
        · exact .inl rfl
        · exact .inr List.mem_cons_self
    · exact (ih h).imp_right (List.mem_cons_of_mem d)

/-- Of all line breaks only line feeds are left. -/
theorem eq_newline_of_mem_relined {c : Char} {s : List Char} (h : c ∈ relined s)
    (hc : isLineBreak c = true) : c = '\n' := by
  induction s with
  | nil => cases h
  | cons d r ih =>
    rw [relined, List.mem_append, relinedChar] at h
    rcases h with h | h
    · split at h
      · cases h
      · rw [List.mem_singleton] at h
        subst h
        split
        · rfl
        next hd => simp [hd] at hc
    · exact ih h

theorem relined_eq_self_iff {s : List Char} :
    relined s = s ↔ ∀ c ∈ s, isLineBreak c = true → c = '\n' := by
  refine ⟨fun h c hc => ?_, relined_eq_self⟩
  rw [← h] at hc
  exact eq_newline_of_mem_relined hc

theorem head?_relined_of {p : Char → Bool} {s : List Char} (hn : p '\n' = false)
    (h : ∀ c ∈ s.head?, p c = false) : ∀ c ∈ (relined s).head?, p c = false := by
  intro c hc
  rw [head?_relined, Option.mem_def, Option.map_eq_some_iff] at hc
  obtain ⟨d, hd, rfl⟩ := hc
  split
  · exact hn
  · exact h d hd

theorem atWordEnd_relined (s : List Char) : atWordEnd (relined s) = atWordEnd s := by
  cases s with
  | nil => rfl
  | cons c r =>
    cases hc : isLineBreak c with
    | false => rw [relined_cons r hc]; rfl
    | true =>
      have hhead : atWordEnd (c :: r) = true := by
        simp [atWordEnd, isWordChar_of_isLineBreak hc]
      rw [hhead, atWordEnd_iff]
      refine head?_relined_of (by decide) fun d hd => ?_
      cases hd
      exact isWordChar_of_isLineBreak hc

theorem span_relined_word (s : List Char) :
    (relined s).takeWhile isWordChar = s.takeWhile isWordChar ∧
      (relined s).dropWhile isWordChar = relined (s.dropWhile isWordChar) := by
  have hrun : ∀ c ∈ s.takeWhile isWordChar, isWordChar c = true := fun _ => List.mem_takeWhile_imp
  have hunbroken : Unbroken (s.takeWhile isWordChar) := fun c hc =>
    isLineBreak_of_not_blank (isBlank_of_isWordChar (hrun c hc))
  have hsplit := List.takeWhile_append_dropWhile (p := isWordChar) (l := s)
  have hrest : ∀ c ∈ (relined (s.dropWhile isWordChar)).head?, isWordChar c = false :=
    head?_relined_of (by decide) (head?_dropWhile isWordChar s)
  -- the word stays as it is, and behind it stands no character of a word still
  have hspan := span_run hrun hrest
  rwa [← relined_unbroken hunbroken, ← relined_append, hsplit, relined_unbroken hunbroken] at hspan
  exact apart_of_getLast? (fun c hc => hunbroken c (List.mem_of_getLast? hc)) _

theorem span_relined_blank (s : List Char) :
    (relined s).takeWhile isBlank = relined (s.takeWhile isBlank) ∧
      (relined s).dropWhile isBlank = relined (s.dropWhile isBlank) := by
  have hrun : ∀ c ∈ relined (s.takeWhile isBlank), isBlank c = true := by
    intro c hc
    rcases mem_relined hc with rfl | hc
    · decide
    · exact List.mem_takeWhile_imp hc
  have hsplit := List.takeWhile_append_dropWhile (p := isBlank) (l := s)
  have hvisible := head?_dropWhile isBlank s
  have hrest : ∀ c ∈ (relined (s.dropWhile isBlank)).head?, isBlank c = false := by
    intro c hc
    rw [head?_relined, Option.mem_def, Option.map_eq_some_iff] at hc
    obtain ⟨d, hd, rfl⟩ := hc
    have hd := hvisible d hd
    rwa [if_neg (by simp [isLineBreak_of_not_blank hd])]
  have hspan := span_run hrun hrest
  rwa [← relined_append, hsplit] at hspan
  exact apart_of_head? _ fun c hc => isLineBreak_of_not_blank (hvisible c hc)

theorem getLast?_relined {s : List Char} (h : ∀ c ∈ s.getLast?, isBlank c = false) :
    ∀ c ∈ (relined s).getLast?, isBlank c = false := by
  rcases List.eq_nil_or_concat s with rfl | ⟨u, d, rfl⟩
  · exact fun c hc => nomatch hc
  · rw [List.concat_eq_append] at *
    rw [List.getLast?_concat] at h
    have hd : isLineBreak d = false := isLineBreak_of_not_blank (h d rfl)
    rw [relined_append (apart_of_head? u fun c hc => by cases hc; exact hd),
      relined_cons [] hd, relined, List.getLast?_concat]
    exact h

theorem trimRight_relined (s : List Char) : trimRight (relined s) = relined (trimRight s) := by
  obtain ⟨b, hb, hblank⟩ : ∃ b, trimRight s ++ b = s ∧ ∀ c ∈ b, isBlank c = true :=
    ⟨s.rtakeWhile isBlank, List.rdropWhile_append_rtakeWhile, fun _ => List.mem_rtakeWhile_imp⟩
  have hlast := getLast?_trimRight s
  have hsplit : relined s = relined (trimRight s) ++ relined b := by
    rw [← relined_append, hb]
    exact apart_of_getLast? (fun c hc => isLineBreak_of_not_blank (hlast c hc)) b
  have hnil : trimRight (relined b) = [] := by
    refine List.rdropWhile_eq_nil_iff.2 fun c hc => ?_
    rcases mem_relined hc with rfl | hc
    · decide
    · exact hblank c hc
  rw [hsplit, trimRight_append _ (getLast?_relined hlast), hnil, List.append_nil]

theorem trim_relined (s : List Char) : trim (relined s) = relined (trim s) := by
  rw [trim, trimLeft, (span_relined_blank s).2, trimRight_relined]
  rfl

theorem lines_ne_nil {s : List Char} (h : s ≠ []) : lines s ≠ [] := by
  fun_induction lines s <;> simp_all

/-- The last line goes on to the end of the text. -/
def EndsInLine (s : List Char) : Prop :=
  ∀ c ∈ s.getLast?, isLineBreak c = false

theorem EndsInLine.of_cons {c : Char} {r : List Char} (h : EndsInLine (c :: r)) :
    EndsInLine r ∧ (isLineBreak c = true → r ≠ []) := by
  cases r with
  | nil =>
    constructor
    · rintro d hd
      cases hd
    · intro hc
      rw [h c rfl] at hc
      cases hc
  | cons d r =>
    rw [EndsInLine, List.getLast?_cons_cons] at h
    exact ⟨h, fun _ => List.cons_ne_nil d r⟩

theorem intercalate_lines {s : List Char} (h : EndsInLine s) :
    ['\n'].intercalate (lines s) = relined s := by
  fun_induction lines s with
  | case1 => rfl
  | case2 r ih =>
    obtain ⟨hr, hne⟩ := h.of_cons.1.of_cons
    rw [List.intercalate_cons_of_ne_nil (lines_ne_nil (hne (by decide))), ih hr]
    rfl
  | case3 c r hn hc ih =>
    obtain ⟨hr, hne⟩ := h.of_cons
    have hchar : relinedChar c r.head? = ['\n'] := by
      rw [relinedChar, if_neg, if_pos hc]
      rintro ⟨hcr, hnext⟩
      obtain ⟨u, hu⟩ := List.head?_eq_some_iff.1 hnext
      exact hn u hcr hu
    rw [List.intercalate_cons_of_ne_nil (lines_ne_nil (hne hc)), ih hr, relined, hchar]
    rfl
  | case4 c r hn hc hl ih =>
    rw [hl] at ih
    rw [relined_cons r (by simpa using hc), ← ih h.of_cons.1]
    rfl
  | case5 c r hn hc l ls hl ih =>
    rw [hl] at ih
    rw [relined_cons r (by simpa using hc), ← ih h.of_cons.1]
    cases ls with
    | nil => simp
    | cons k ks => simp only [List.intercalate_cons_cons, List.cons_append]

theorem lines_append {s : List Char} (h : EndsInLine s) (hne : s ≠ []) (r : List Char) :
    lines (s ++ '\n' :: r) = lines s ++ lines r := by
  fun_induction lines s with
  | case1 => exact absurd rfl hne
  | case2 s ih =>
    obtain ⟨hs, hne⟩ := h.of_cons.1.of_cons
    rw [List.cons_append, List.cons_append, lines, ih hs (hne (by decide))]
    rfl
  | case3 c s hn hc ih =>
    obtain ⟨hs, hne⟩ := h.of_cons
    -- `s` goes on behind the break, so the line feed does not join it
    have hn' : ∀ u, c = '\r' → s ++ '\n' :: r = '\n' :: u → False := by
      intro u hcr hu
      obtain ⟨d, t, rfl⟩ := List.exists_cons_of_ne_nil (hne hc)
      obtain ⟨rfl, -⟩ := List.cons.inj hu
      exact hn t hcr rfl
    rw [List.cons_append, lines.eq_3 _ _ hn', if_pos hc, ih hs (hne hc)]
    rfl
  | case4 c s hn hc hl ih =>
    obtain rfl : s = [] := Decidable.not_not.1 fun hne => lines_ne_nil hne hl
    exact lines_append_newline (by simpa [Unbroken] using hc) r
  | case5 c s hn hc l ls hl ih =>
    have hne : s ≠ [] := by
      rintro rfl
      cases hl
    rw [List.cons_append, lines_cons _ (by simpa using hc), ih h.of_cons.1 hne, hl]
    rfl

/-- What stands in front of a text on its first line stands in front of that line. -/
theorem lines_append_of_cons {p s l : List Char} {ls : List (List Char)} (hp : Unbroken p)
    (h : lines s = l :: ls) : lines (p ++ s) = (p ++ l) :: ls := by
  induction p with
  | nil => exact h
  | cons c p ih =>
    obtain ⟨hc, hp⟩ := List.forall_mem_cons.1 hp
    rw [List.cons_append, lines_cons _ hc, ih hp]
    rfl

/-- Whatever stands behind a text without a line break goes onto one line of it. -/
theorem exists_lines_append (s : List Char) : ∃ ls l, ∀ p, Unbroken p → p ≠ [] →
    lines (s ++ p) = ls ++ [l ++ p] := by
  fun_induction lines s with
  | case1 => exact ⟨[], [], fun p hp hne => lines_unbroken hp hne⟩
  | case2 r ih =>
    obtain ⟨ls, l, h⟩ := ih
    exact ⟨[] :: ls, l, fun p hp hne => congrArg ([] :: ·) (h p hp hne)⟩
  | case3 c r hn hc ih =>
    obtain ⟨ls, l, h⟩ := ih
    refine ⟨[] :: ls, l, fun p hp hne => ?_⟩
    have hn' : ∀ u, c = '\r' → r ++ p = '\n' :: u → False := by
      intro u hcr hu
      cases r with
      | nil =>
        rw [List.nil_append] at hu
        exact absurd (hp '\n' (hu ▸ List.mem_cons_self)) (by decide)
      | cons d t =>
        obtain ⟨rfl, -⟩ := List.cons.inj hu
        exact hn t hcr rfl
    rw [List.cons_append, lines.eq_3 _ _ hn', if_pos hc, h p hp hne]
    rfl
  | case4 c r hn hc _ ih | case5 c r hn hc _ _ _ ih =>
    obtain ⟨ls, l, h⟩ := ih
    have hplain : isLineBreak c = false := Bool.eq_false_iff.2 hc
    cases ls with
    | nil =>
      exact ⟨[], c :: l, fun p hp hne => by
        rw [List.cons_append, lines_cons _ hplain, h p hp hne]; rfl⟩
    | cons k ks =>
      exact ⟨(c :: k) :: ks, l, fun p hp hne => by
        rw [List.cons_append, lines_cons _ hplain, h p hp hne]; rfl⟩

theorem unbroken_lines (s : List Char) : ∀ l ∈ lines s, Unbroken l := by
  have hnil : Unbroken [] := List.forall_mem_nil _
  fun_induction lines s with
  | case1 => exact List.forall_mem_nil _
  | case2 r ih => exact List.forall_mem_cons.2 ⟨hnil, ih⟩
  | case3 c r hn hc ih => exact List.forall_mem_cons.2 ⟨hnil, ih⟩
  | case4 c r hn hc hl ih =>
    exact List.forall_mem_singleton.2 (List.forall_mem_singleton.2 (by simpa using hc))
  | case5 c r hn hc l ls hl ih =>
    rw [hl] at ih
    obtain ⟨hl, hls⟩ := List.forall_mem_cons.1 ih
    exact List.forall_mem_cons.2 ⟨List.forall_mem_cons.2 ⟨by simpa using hc, hl⟩, hls⟩

theorem isPrefix_of_lines {s l : List Char} {ls : List (List Char)} (h : lines s = l :: ls) :
    l <+: s := by
  fun_induction lines s generalizing l ls with
  | case1 => cases h
  | case2 | case3 =>
    obtain ⟨rfl, -⟩ := List.cons.inj h
    exact List.nil_prefix
  | case4 c r =>
    obtain ⟨rfl, -⟩ := List.cons.inj h
    exact List.singleton_prefix_cons_iff.2 rfl
  | case5 c r hn hc k ks hk ih =>
    obtain ⟨rfl, -⟩ := List.cons.inj h
    exact List.cons_prefix_cons.2 ⟨rfl, ih hk⟩

/-- A line stands in the text in one piece. -/
theorem isInfix_of_mem_lines (s : List Char) : ∀ l ∈ lines s, l <:+: s := by
  fun_induction lines s with
  | case1 => exact List.forall_mem_nil _
  | case2 r ih =>
    exact List.forall_mem_cons.2 ⟨List.nil_infix, fun l hl =>
      List.infix_cons (List.infix_cons (ih l hl))⟩
  | case3 c r hn hc ih =>
    exact List.forall_mem_cons.2 ⟨List.nil_infix, fun l hl => List.infix_cons (ih l hl)⟩
  | case4 c r hn hc hl ih =>
    exact List.forall_mem_singleton.2 (List.singleton_prefix_cons_iff.2 rfl).isInfix
  | case5 c r hn hc l ls hl ih =>
    rw [hl] at ih
    obtain ⟨-, hls⟩ := List.forall_mem_cons.1 ih
    have hfirst : c :: l <+: c :: r := List.cons_prefix_cons.2 ⟨rfl, isPrefix_of_lines hl⟩
    exact List.forall_mem_cons.2 ⟨hfirst.isInfix, fun k hk => List.infix_cons (hls k hk)⟩

/-- Lines put together again have no other line breaks than line feeds. -/
theorem relined_intercalate {ls : List (List Char)} (h : ∀ l ∈ ls, Unbroken l) :
    relined (['\n'].intercalate ls) = ['\n'].intercalate ls := by
  induction ls with
  | nil => rfl
  | cons l ls ih =>
    obtain ⟨hl, hls⟩ := List.forall_mem_cons.1 h
    have hself := relined_unbroken hl
    have hapart : ∀ t, Apart l t :=
      apart_of_getLast? fun c hc => hl c (List.mem_of_getLast? hc)
    cases ls with
    | nil => rwa [List.intercalate_singleton]
    | cons k ks =>
      rw [List.intercalate_cons_cons, List.append_assoc, List.singleton_append,
        relined_append (hapart _), hself, relined_newline, ih hls]

end TableDraft.Text
