import Mathlib.Data.List.Basic
import TableDraft.Proofs.Script.Words
import TableDraft.Proofs.Text.Trim

namespace TableDraft
open TableDraft.Text

namespace Text

/-- Without a line break. -/
def Unbroken (s : List Char) : Prop :=
  ∀ c ∈ s, isLineBreak c = false

theorem unbroken_iff (s : List Char) :
    Unbroken s ↔ (s.all fun c => !isLineBreak c) = true := by
  simp [Unbroken]

instance (s : List Char) : Decidable (Unbroken s) :=
  decidable_of_iff' _ (unbroken_iff s)

theorem unbroken_append {s t : List Char} : Unbroken (s ++ t) ↔ Unbroken s ∧ Unbroken t := by
  simp [Unbroken, or_imp, forall_and]

theorem Unbroken.of_isInfix {s t : List Char} (ht : Unbroken t) (h : s <:+: t) : Unbroken s :=
  fun c hc => ht c (h.subset hc)

theorem lines_cons {c : Char} (r : List Char) (hc : isLineBreak c = false) :
    lines (c :: r) = match lines r with
      | [] => [[c]]
      | l :: ls => (c :: l) :: ls := by
  have hr : c ≠ '\r' := by
    rintro rfl
    exact absurd hc (by decide)
  rw [lines.eq_def]
  split
  next heq => cases heq
  next heq => exact absurd (List.cons.inj heq).1 hr
  next heq =>
    obtain ⟨rfl, rfl⟩ := List.cons.inj heq
    exact if_neg (by simp [hc])

theorem lines_append_newline {l : List Char} (h : Unbroken l) (r : List Char) :
    lines (l ++ '\n' :: r) = l :: lines r := by
  induction l with
  | nil =>
    rw [List.nil_append, lines, if_pos (by decide)]
    simp
  | cons c l ih =>
    rw [List.cons_append, lines_cons _ (h c List.mem_cons_self),
      ih fun d hd => h d (List.mem_cons_of_mem c hd)]

theorem lines_unbroken {l : List Char} (h : Unbroken l) (hne : l ≠ []) : lines l = [l] := by
  induction l with
  | nil => exact absurd rfl hne
  | cons c l ih =>
    rw [lines_cons _ (h c List.mem_cons_self)]
    by_cases hl : l = []
    · subst hl
      rfl
    · rw [ih (fun d hd => h d (List.mem_cons_of_mem c hd)) hl]

theorem lines_intercalate {ls : List (List Char)} (h : ∀ l ∈ ls, Unbroken l ∧ l ≠ []) :
    lines (['\n'].intercalate ls) = ls := by
  induction ls with
  | nil => rfl
  | cons l ls ih =>
    obtain ⟨hl, hne⟩ := h l List.mem_cons_self
    have ih := ih fun k hk => h k (List.mem_cons_of_mem l hk)
    cases ls with
    | nil => simpa using lines_unbroken hl hne
    | cons k ks =>
      rw [List.intercalate_cons_cons, List.append_assoc, List.singleton_append,
        lines_append_newline hl, ih]

end Text

namespace Script

theorem isComment_dashes (s : List Char) : isComment ("--".toList ++ s) = true := by
  have hhead : ∀ c ∈ ("--".toList ++ s).head?, isBlank c = false := by
    intro c hc
    cases hc
    decide
  have hlast : ∀ c ∈ "--".toList.getLast?, isBlank c = false := by
    intro c hc
    cases hc
    decide
  rw [isComment, trim, trimLeft_eq_self hhead, trimRight_append s hlast, List.isPrefixOf_iff_prefix]
  exact List.prefix_append _ _

theorem isComment_of_trimmed {s : List Char} (ht : Trimmed s) (h : ∀ c ∈ s.head?, c ≠ '-') :
    isComment s = false := by
  rw [isComment, trim_eq_self ht]
  cases s with
  | nil => rfl
  | cons c r =>
    have hc : '-' ≠ c := (h c rfl).symm
    simp [List.isPrefixOf, hc]

/-- Of a script of comment lines and other lines only the others are its body. -/
theorem body_intercalate {comments others : List (List Char)}
    (hc : ∀ l ∈ comments, Unbroken l ∧ l ≠ [] ∧ isComment l = true)
    (ho : ∀ l ∈ others, Unbroken l ∧ l ≠ [] ∧ isComment l = false) :
    body (['\n'].intercalate (comments ++ others)) = ['\n'].intercalate others := by
  have hlines : lines (['\n'].intercalate (comments ++ others)) = comments ++ others := by
    refine lines_intercalate fun l hl => ?_
    rcases List.mem_append.1 hl with hl | hl
    · exact ⟨(hc l hl).1, (hc l hl).2.1⟩
    · exact ⟨(ho l hl).1, (ho l hl).2.1⟩
  have hnone : (comments.filter fun l => !isComment l) = [] := by
    rw [List.filter_eq_nil_iff]
    intro l hl
    simp [(hc l hl).2.2]
  have hall : (others.filter fun l => !isComment l) = others := by
    rw [List.filter_eq_self]
    intro l hl
    simp [(ho l hl).2.2]
  rw [body, hlines, List.filter_append, hnone, hall, List.nil_append]

theorem statementsOf_nil : statementsOf [] = [] := by
  simp [statementsOf, fragments]
  rfl

/-- A blank in front of a text changes none of its statements. -/
theorem statementsOf_cons_blank {c : Char} (h : isBlank c = true) (s : List Char) :
    statementsOf (c :: s) = statementsOf s := by
  have hword := isWordChar_of_isBlank h
  have hquote := isQuote_of_isBlank h
  have hne : c ≠ ';' := by
    rintro rfl
    exact absurd h (by decide)
  have hmark : Takes 0 [c] 0 s :=
    takes_mark s (startsWord_of_not_word hword) hquote (.inl hne)
  obtain ⟨f, fs, hf⟩ := List.exists_cons_of_ne_nil (fragments_ne_nil 0 s)
  unfold statementsOf
  rw [← List.singleton_append, hmark, hf]
  simp only [onFirst, List.map_cons, List.singleton_append]
  rw [trim_cons_blank f h]

theorem statementsOf_newline (s : List Char) : statementsOf ('\n' :: s) = statementsOf s :=
  statementsOf_cons_blank (by decide) s

theorem statementsOf_closed {s : List Char} (hs : Closed s) (ht : Trimmed s) (hne : s ≠ [])
    (rest : List Char) : statementsOf (s ++ ';' :: rest) = s :: statementsOf rest := by
  have hv : s.isEmpty = false := by simpa using hne
  simp [statementsOf, hs rest, trim_eq_self ht, hv]

theorem statementsOf_intercalate {ss : List (List Char)}
    (h : ∀ s ∈ ss, Closed s ∧ Trimmed s ∧ s ≠ []) :
    statementsOf (['\n'].intercalate (ss.map (· ++ [';']))) = ss := by
  induction ss with
  | nil => exact statementsOf_nil
  | cons s ss ih =>
    obtain ⟨hs, ht, hne⟩ := h s List.mem_cons_self
    have ih := ih fun k hk => h k (List.mem_cons_of_mem s hk)
    cases ss with
    | nil =>
      rw [List.map_singleton, List.intercalate_singleton, statementsOf_closed hs ht hne,
        statementsOf_nil]
    | cons k ks =>
      simp only [List.map_cons] at ih ⊢
      -- the first statement ends at its terminator, and the line feed goes with the next one
      rw [List.intercalate_cons_cons, List.append_assoc, List.append_assoc, List.singleton_append,
        List.singleton_append, statementsOf_closed hs ht hne, statementsOf_newline, ih]

end Script

end TableDraft
