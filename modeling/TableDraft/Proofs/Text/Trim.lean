import Mathlib.Data.List.DropRight
import TableDraft.Proofs.Text.Runs

namespace TableDraft.Text

/-- Neither end of the text is blank. -/
def Trimmed (s : List Char) : Prop :=
  (∀ c ∈ s.head?, isBlank c = false) ∧ ∀ c ∈ s.getLast?, isBlank c = false

theorem trimLeft_eq_self {s : List Char} (h : ∀ c ∈ s.head?, isBlank c = false) :
    trimLeft s = s := by
  cases s with
  | nil => rfl
  | cons c r => simp [trimLeft, h c rfl]

theorem trimRight_eq_self {s : List Char} (h : ∀ c ∈ s.getLast?, isBlank c = false) :
    trimRight s = s := by
  refine List.rdropWhile_eq_self_iff.2 fun hs => ?_
  simp [h _ (List.getLast?_eq_some_getLast hs)]

theorem trim_eq_self {s : List Char} (h : Trimmed s) : trim s = s := by
  rw [trim, trimLeft_eq_self h.1, trimRight_eq_self h.2]

theorem head?_trimLeft (s : List Char) : ∀ c ∈ (trimLeft s).head?, isBlank c = false :=
  head?_dropWhile isBlank s

theorem getLast?_trimRight (s : List Char) :
    ∀ c ∈ (trimRight s).getLast?, isBlank c = false := by
  intro c hc
  rw [trimRight, List.getLast?_reverse] at hc
  exact head?_trimLeft s.reverse c hc

theorem trimRight_isPrefix (s : List Char) : trimRight s <+: s :=
  List.rdropWhile_prefix isBlank s

theorem trim_trimmed (s : List Char) : Trimmed (trim s) := by
  refine ⟨fun c hc => ?_, getLast?_trimRight _⟩
  obtain ⟨t, ht⟩ := trimRight_isPrefix (trimLeft s)
  apply head?_trimLeft s c
  rw [← ht]
  exact List.mem_head?_append_of_mem_head? hc

@[simp] theorem trim_trim (s : List Char) : trim (trim s) = trim s :=
  trim_eq_self (trim_trimmed s)

theorem trim_isInfix (s : List Char) : trim s <:+: s :=
  (trimRight_isPrefix _).isInfix.trans (List.dropWhile_suffix isBlank).isInfix

theorem trim_cons_blank {c : Char} (s : List Char) (h : isBlank c = true) :
    trim (c :: s) = trim s := by
  simp [trim, trimLeft, h]

theorem trim_concat_blank {c : Char} (s : List Char) (h : isBlank c = true) :
    trim (s ++ [c]) = trim s := by
  unfold trim trimLeft
  rw [List.dropWhile_append]
  split
  next hs => simp [List.isEmpty_iff.1 hs, h]
  next => exact List.rdropWhile_concat_pos _ _ _ h

/-- What ends in a visible character stays whole when blanks are taken off the right. -/
theorem trimRight_append {s : List Char} (t : List Char)
    (h : ∀ c ∈ s.getLast?, isBlank c = false) : trimRight (s ++ t) = s ++ trimRight t := by
  unfold trimRight
  rw [List.reverse_append, List.dropWhile_append]
  split
  next ht =>
    have hr : s.reverse.dropWhile isBlank = s.reverse := by
      simpa [trimRight] using congrArg List.reverse (trimRight_eq_self h)
    simp [hr, List.isEmpty_iff.1 ht]
  next => simp

/-- Trimming keeps what a text keeps when it loses a blank at either end. -/
theorem trim_keeps {P : List Char → Prop} {s : List Char}
    (hleft : ∀ c t, isBlank c = true → P (c :: t) → P t)
    (hright : ∀ c t, isBlank c = true → P (t ++ [c]) → P t) (h : P s) : P (trim s) := by
  have hstart : P (trimLeft s) := by
    induction s with
    | nil => exact h
    | cons c r ih =>
      cases hc : isBlank c with
      | true => simpa [trimLeft, hc] using ih (hleft c r hc h)
      | false => simpa [trimLeft, hc] using h
  rw [trim]
  generalize trimLeft s = t at hstart
  induction t using List.reverseRecOn with
  | nil => exact hstart
  | append_singleton t c ih =>
    cases hc : isBlank c with
    | true =>
      have hdrop : trimRight (t ++ [c]) = trimRight t := List.rdropWhile_concat_pos _ _ _ hc
      rw [hdrop]
      exact ih (hright c t hc hstart)
    | false =>
      have hsame : trimRight (t ++ [c]) = t ++ [c] :=
        List.rdropWhile_concat_neg _ _ _ (by simp [hc])
      rwa [hsame]

theorem trimRight_ne_nil {c : Char} {s : List Char} (h : c ∈ s) (hc : isBlank c = false) :
    trimRight s ≠ [] := by
  intro hnil
  have hblank := List.rdropWhile_eq_nil_iff.1 hnil c h
  rw [hc] at hblank
  cases hblank

theorem trimmed_append {s t : List Char} (hs : s ≠ []) (ht : t ≠ [])
    (h : ∀ c ∈ s.head?, isBlank c = false) (h' : ∀ c ∈ t.getLast?, isBlank c = false) :
    Trimmed (s ++ t) := by
  constructor
  · rwa [List.head?_append_of_ne_nil _ hs]
  · rwa [List.getLast?_append_of_ne_nil _ ht]

theorem trimmed_trimmed (s : String) : trimmed (trimmed s) = trimmed s := by
  simp [trimmed]

end TableDraft.Text
