import Mathlib.Data.List.Infix
import TableDraft.Text.Search

namespace TableDraft.Text

variable {needle other a b s : List Char} {q : Char} {k : Nat}

/-- What starts with the text goes on behind a character that the text does not have, or not. -/
theorem startsWith_append_cons_iff (hq : q ∉ needle) : needle <+: a ++ q :: b ↔ needle <+: a := by
  refine ⟨fun h => ?_, fun h => h.trans (List.prefix_append a _)⟩
  refine List.prefix_of_prefix_length_le h (List.prefix_append a _) (Nat.le_of_not_lt fun hlt => hq ?_)
  have hline : a ++ [q] <+: a ++ q :: b := ⟨b, by simp⟩
  have hbegins : a ++ [q] <+: needle :=
    List.prefix_of_prefix_length_le hline h (by rw [List.length_append]; exact hlt)
  exact hbegins.subset (List.mem_append_right a List.mem_cons_self)

theorem replaceFrom_of_length_le (h : s.length ≤ k) : replaceFrom needle other k s = [] := by
  induction s generalizing k with
  | nil => rw [replaceFrom]
  | cons c s ih =>
    cases k with
    | zero => cases h
    | succ k => exact ih (Nat.le_of_succ_le_succ h)

/-- Characters that are still to be left all stand in front of `q`. -/
theorem replaceFrom_append_cons (hneedle : needle ≠ []) (hq : q ∉ needle) (hk : k ≤ a.length) :
    replaceFrom needle other k (a ++ q :: b) =
      replaceFrom needle other k a ++ q :: replaceAll needle other b := by
  induction a generalizing k with
  | nil =>
    obtain rfl := Nat.le_zero.1 hk
    have hstart : ¬needle.isPrefixOf (q :: b) := by
      rw [List.isPrefixOf_iff_prefix]
      intro h
      exact hneedle (List.prefix_nil.1 ((startsWith_append_cons_iff (a := []) hq).1 h))
    exact if_neg hstart
  | cons c a ih =>
    cases k with
    | succ k => exact ih (Nat.le_of_succ_le_succ hk)
    | zero =>
      have hsame : needle.isPrefixOf (c :: (a ++ q :: b)) = needle.isPrefixOf (c :: a) := by
        rw [Bool.eq_iff_iff, List.isPrefixOf_iff_prefix, List.isPrefixOf_iff_prefix]
        exact startsWith_append_cons_iff (a := c :: a) hq
      rw [List.cons_append, replaceFrom, hsame, replaceFrom]
      split
      case isTrue h =>
        have hlength := (List.isPrefixOf_iff_prefix.1 h).length_le
        rw [ih (Nat.sub_le_of_le_add hlength), List.append_assoc]
      case isFalse => rw [ih (Nat.zero_le _), List.cons_append]

theorem replaceAll_append_cons (hneedle : needle ≠ []) (hq : q ∉ needle) :
    replaceAll needle other (a ++ q :: b) =
      replaceAll needle other a ++ q :: replaceAll needle other b :=
  replaceFrom_append_cons hneedle hq (Nat.zero_le _)

theorem replaceAll_eq_self (h : ¬needle <:+: s) : replaceAll needle other s = s := by
  induction s with
  | nil => rfl
  | cons c s ih =>
    rw [List.infix_cons_iff, not_or] at h
    have hstart : ¬needle.isPrefixOf (c :: s) := fun hs => h.1 (List.isPrefixOf_iff_prefix.1 hs)
    rw [replaceAll, replaceFrom, if_neg hstart]
    exact congrArg (c :: ·) (ih h.2)

theorem replaceAll_self (hneedle : needle ≠ []) : replaceAll needle other needle = other := by
  obtain ⟨c, r, rfl⟩ := List.exists_cons_of_ne_nil hneedle
  rw [replaceAll, replaceFrom, if_pos (List.isPrefixOf_iff_prefix.2 List.prefix_rfl),
    replaceFrom_of_length_le (by simp), List.append_nil]

end TableDraft.Text
