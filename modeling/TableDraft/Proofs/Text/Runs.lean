import Mathlib.Data.List.Basic
import Mathlib.Data.List.TakeWhile
import TableDraft.Text.Blank
import TableDraft.Text.Letter
import TableDraft.Text.Lines

namespace TableDraft.Text

/-- No range of `ds` meets one of `ls`. The bounds are compared as the kernel does it fastest, since the
tables are long. -/
def rangesApart (ds ls : List (Nat × Nat)) : Bool :=
  ds.all fun d => ls.all fun l => (d.2 + 1).ble l.1 || (l.2 + 1).ble d.1

theorem inRanges_eq_false {ds ls : List (Nat × Nat)} {n : Nat} (h : rangesApart ds ls = true)
    (hn : inRanges ds n = true) : inRanges ls n = false := by
  rw [inRanges, List.any_eq_false]
  intro l hl hnl
  obtain ⟨d, hd, hnd⟩ := List.any_eq_true.1 hn
  have hdl := List.all_eq_true.1 (List.all_eq_true.1 h d hd) l hl
  simp only [Bool.and_eq_true, Bool.or_eq_true, decide_eq_true_eq, Nat.ble_eq] at hnl hnd hdl
  omega

def blankRanges : List (Nat × Nat) :=
  [(9, 13), (28, 32), (0x85, 0x85), (0xA0, 0xA0), (0x1680, 0x1680), (0x2000, 0x200A),
    (0x2028, 0x2029), (0x202F, 0x202F), (0x205F, 0x205F), (0x3000, 0x3000)]

theorem isWordChar_of_isBlank {c : Char} (h : isBlank c = true) : isWordChar c = false := by
  have hn : inRanges blankRanges c.toNat = true := by
    simp only [isBlank, Bool.or_eq_true, Bool.and_eq_true, decide_eq_true_eq, beq_iff_eq] at h
    simp only [inRanges, blankRanges, List.any_cons, List.any_nil, Bool.or_eq_true,
      Bool.and_eq_true, decide_eq_true_eq, Bool.false_eq_true]
    omega
  have hascii : inRanges [(48, 57), (65, 90), (95, 95), (97, 122)] c.toNat = false :=
    inRanges_eq_false (by decide) hn
  have hletter : inRanges letterRanges c.toNat = false := inRanges_eq_false (by decide +kernel) hn
  have hnumeral : inRanges numeralRanges c.toNat = false := inRanges_eq_false (by decide +kernel) hn
  simp only [inRanges, List.any_cons, List.any_nil, Bool.or_eq_false_iff, Bool.or_false] at hascii
  obtain ⟨hdigit, hupper, hlow, hlower⟩ := hascii
  have hline : (c == '_') = false := by
    rw [beq_eq_false_iff_ne]
    rintro rfl
    cases hlow
  simp only [isWordChar, isLetter, isNumeral, isAsciiLetter, isAsciiDigit, hletter, hnumeral, hline,
    hdigit, hupper, hlower, Bool.or_false, ite_self]

theorem isBlank_of_isWordChar {c : Char} (h : isWordChar c = true) : isBlank c = false := by
  cases hb : isBlank c with
  | false => rfl
  | true => rw [isWordChar_of_isBlank hb] at h; cases h

theorem isBlank_of_isLineBreak {c : Char} (h : isLineBreak c = true) : isBlank c = true := by
  simp [isLineBreak] at h
  simp [isBlank]
  omega

theorem isWordChar_of_isLineBreak {c : Char} (h : isLineBreak c = true) : isWordChar c = false :=
  isWordChar_of_isBlank (isBlank_of_isLineBreak h)

theorem isLineBreak_of_not_blank {c : Char} (h : isBlank c = false) : isLineBreak c = false := by
  rw [Bool.eq_false_iff] at *
  exact fun hb => h (isBlank_of_isLineBreak hb)

theorem head?_dropWhile (p : Char → Bool) (s : List Char) :
    ∀ c ∈ (s.dropWhile p).head?, p c = false := by
  intro c hc
  have h := List.head?_dropWhile_not p s
  simpa [Option.mem_def.1 hc] using h

/-- No run of characters goes on into a text that begins with another kind of character. -/
theorem span_append {p : Char → Bool} {rest : List Char} (hr : ∀ c ∈ rest.head?, p c = false)
    (s : List Char) : (s ++ rest).takeWhile p = s.takeWhile p ∧
      (s ++ rest).dropWhile p = s.dropWhile p ++ rest := by
  induction s with
  | nil =>
    cases rest with
    | nil => exact ⟨rfl, rfl⟩
    | cons c r => simp [hr c rfl]
  | cons c s ih => by_cases hc : p c = true <;> simp [hc, ih]

/-- A run of characters ends where another kind of character begins. -/
theorem span_run {p : Char → Bool} {s rest : List Char} (hs : ∀ c ∈ s, p c = true)
    (hr : ∀ c ∈ rest.head?, p c = false) :
    (s ++ rest).takeWhile p = s ∧ (s ++ rest).dropWhile p = rest := by
  have hspan := span_append hr s
  rwa [List.takeWhile_eq_self_iff.2 hs, List.dropWhile_eq_nil_iff.2 hs, List.nil_append] at hspan

theorem atWordEnd_iff {s : List Char} : atWordEnd s = true ↔ ∀ c ∈ s.head?, isWordChar c = false := by
  cases s with
  | nil => simp [atWordEnd]
  | cons c r => simp [atWordEnd]

theorem atWordEnd_append_of_ne_nil {s : List Char} (h : s ≠ []) (t : List Char) :
    atWordEnd (s ++ t) = atWordEnd s := by
  cases s with
  | nil => exact absurd rfl h
  | cons c r => rfl

end TableDraft.Text
