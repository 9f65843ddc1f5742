import TableDraft.Proofs.Text.Trim
import TableDraft.Sql.Block

namespace TableDraft.Sql
open TableDraft.Text

theorem afterWord?_self (word s : List Char) : afterWord? word (word ++ s) = some s := by
  induction word with
  | nil => rfl
  | cons k ks ih =>
    have hk : sameLetter k k = true := by simp [sameLetter]
    rw [List.cons_append, afterWord?, if_pos hk, ih]

theorem afterBegin?_block {s : List Char} (h : atWordEnd s = true) :
    afterBegin? ("BEGIN".toList ++ s) = some s := by
  have hleft : trimLeft ("BEGIN".toList ++ s) = "BEGIN".toList ++ s :=
    trimLeft_eq_self fun c hc => by cases hc; decide
  rw [afterBegin?, hleft, afterWord?_self]
  simp only [h, if_true]

theorem beforeEnd?_block {s : List Char} (hne : s ≠ [])
    (h : ∀ c ∈ s.getLast?, isWordChar c = false) : beforeEnd? (s ++ "END".toList) = some s := by
  have hword : "END".toList ≠ [] := by decide
  have hlast : (s ++ "END".toList).getLast? = some 'D' := by
    rw [List.getLast?_append_of_ne_nil _ hword]
    decide
  have hright : trimRight (s ++ "END".toList) = s ++ "END".toList := by
    refine trimRight_eq_self fun c hc => ?_
    rw [hlast] at hc
    cases hc
    decide
  have hsame : withoutSemicolon (s ++ "END".toList) = s ++ "END".toList := by
    unfold withoutSemicolon
    rw [hright]
    refine if_neg ?_
    rw [hlast]
    decide
  -- the closing word is looked for from the right
  have hreverse : "END".toList.reverse = "DNE".toList := by decide
  rw [beforeEnd?, hsame, List.reverse_append, hreverse, afterWord?_self]
  cases hs : s.reverse with
  | nil => exact absurd (List.reverse_eq_nil_iff.1 hs) hne
  | cons c r =>
    have hc : isWordChar c = false := by
      apply h
      rw [← List.head?_reverse, hs]
      rfl
    simp only [hc, Bool.false_eq_true, if_false, ← hs, List.reverse_reverse]

/-- The inside of a block comes back, if no word runs on from its `BEGIN` or into its `END`. -/
theorem unwrapped_block {s : List Char} (hne : s ≠ []) (hstart : atWordEnd s = true)
    (hend : ∀ c ∈ s.getLast?, isWordChar c = false) :
    unwrapped ("BEGIN".toList ++ (s ++ "END".toList)) = trim s := by
  have hafter : atWordEnd (s ++ "END".toList) = true := by
    rwa [atWordEnd_append_of_ne_nil hne]
  rw [unwrapped, afterBegin?_block hafter, Option.bind_some, beforeEnd?_block hne hend]

theorem trim_unwrapped (s : List Char) : trim (unwrapped s) = unwrapped s := by
  unfold unwrapped
  split <;> exact trim_trim _

end TableDraft.Sql
