import TableDraft.Text.Case

namespace TableDraft.Text

theorem le_of_mem_caseExpansions {e : Nat × List Nat} (h : e ∈ caseExpansions) :
    ∀ m ∈ e.2, 65 ≤ m := by
  have hall : (caseExpansions.all fun e => e.2.all (65 ≤ ·)) = true := by decide
  simpa using List.all_eq_true.1 hall e h

theorem le_of_mem_caseRuns {r : CaseRun} (h : r ∈ caseRuns) : 65 ≤ (r.first : Int) + r.shift := by
  have hall : (caseRuns.all fun r => 65 ≤ (r.first : Int) + r.shift) = true := by decide
  simpa using List.all_eq_true.1 hall r h

/-- A character is written as itself, or as code points from `A` on. -/
theorem mem_upperChar {c d : Char} (h : d ∈ upperChar c) :
    d = c ∨ ∃ n, 65 ≤ n ∧ d = Char.ofNat n := by
  unfold upperChar at h
  dsimp only at h
  split at h
  · split at h
    next hlow =>
      refine .inr ⟨c.toNat - 32, ?_, List.mem_singleton.1 h⟩
      simp only [Bool.and_eq_true, decide_eq_true_eq] at hlow
      omega
    next => exact .inl (List.mem_singleton.1 h)
  · split at h
    next ms hms =>
      obtain ⟨before, after, hsplit, -⟩ := List.lookup_eq_some_iff.1 hms
      have hmem : (c.toNat, ms) ∈ caseExpansions := by
        rw [hsplit]
        exact List.mem_append_right before List.mem_cons_self
      obtain ⟨m, hm, rfl⟩ := List.mem_map.1 h
      exact .inr ⟨m, le_of_mem_caseExpansions hmem m hm, rfl⟩
    next =>
      split at h
      next r hr =>
        refine .inr ⟨_, ?_, List.mem_singleton.1 h⟩
        have hfirst := le_of_mem_caseRuns (List.mem_of_find?_eq_some hr)
        have hcovers := List.find?_some hr
        simp only [CaseRun.covers, Bool.and_eq_true, decide_eq_true_eq] at hcovers
        omega
      next => exact .inl (List.mem_singleton.1 h)

/-- A number that is no code point makes the character zero. -/
theorem toNat_ofNat (n : Nat) : (Char.ofNat n).toNat = n ∨ (Char.ofNat n).toNat = 0 := by
  unfold Char.ofNat
  by_cases h : n.isValidChar
  · left
    rw [dif_pos h]
    rfl
  · right
    rw [dif_neg h]
    rfl

theorem mem_of_mem_upper {c : Char} {s : List Char} (h : c ∈ upper s)
    (hc : 0 < c.toNat ∧ c.toNat < 65) : c ∈ s := by
  obtain ⟨d, hd, hcd⟩ := List.mem_flatMap.1 h
  obtain rfl | ⟨n, hn, rfl⟩ := mem_upperChar hcd
  · exact hd
  · have hvalue := toNat_ofNat n
    omega

end TableDraft.Text
