import Mathlib.Data.List.Basic
import Mathlib.Data.List.Induction
import TableDraft.Number.Digits

namespace TableDraft.Number
open TableDraft.Text

theorem isAsciiDigit_eq (c : Char) : isAsciiDigit c = c.isDigit := by
  rw [Bool.eq_iff_iff, isAsciiDigit, Char.isDigit, Bool.and_eq_true, Bool.and_eq_true]
  simp only [decide_eq_true_eq, ge_iff_le, UInt32.le_iff_toNat_le]
  rfl

theorem isAsciiDigit_of_mem_toDigits {n : Nat} {c : Char} (h : c ∈ Nat.toDigits 10 n) :
    isAsciiDigit c = true := by
  rw [isAsciiDigit_eq]
  exact Nat.isDigit_of_mem_toDigits (by decide) (by decide) h

theorem digitsValue_eq (ds : List Char) : digitsValue ds = Nat.ofDigitChars 10 ds 0 := by
  rw [digitsValue, Nat.ofDigitChars_eq_foldl]
  simp only [Nat.mul_comm]
  rfl

/-- Digits give back the number that they were made of. -/
theorem digitsValue_toDigits (n : Nat) : digitsValue (Nat.toDigits 10 n) = n := by
  rw [digitsValue_eq, Nat.ofDigitChars_ten_toDigits]

theorem digitsValue_concat (ds : List Char) (c : Char) :
    digitsValue (ds ++ [c]) = digitsValue ds * 10 + (c.toNat - 48) := by
  rw [digitsValue, List.foldl_append]
  rfl

/-- A number has at most `count` digits if it is below this. -/
def digitBound (count : Nat) : Nat :=
  Nat.pow 10 count

theorem digitBound_mono {i j : Nat} (h : i ≤ j) : digitBound i ≤ digitBound j :=
  Nat.pow_le_pow_right (by decide) h

theorem length_toDigits_le {n count : Nat} (h : n < digitBound count) (hpos : 0 < count) :
    (Nat.toDigits 10 n).length ≤ count :=
  (Nat.length_toDigits_le_iff (by decide) hpos).2 h

theorem digitsValue_lt {ds : List Char} (h : ∀ c ∈ ds, isAsciiDigit c = true) :
    digitsValue ds < digitBound ds.length := by
  induction ds using List.reverseRecOn with
  | nil => exact Nat.one_pos
  | append_singleton ds c ih =>
    have hc : c.toNat - 48 < 10 := by
      have hdigit := h c (List.mem_append_right ds List.mem_cons_self)
      simp only [isAsciiDigit, Bool.and_eq_true, decide_eq_true_eq] at hdigit
      omega
    have hds := ih fun d hd => h d (List.mem_append_left [c] hd)
    have hbound : digitBound (ds.length + 1) = digitBound ds.length * 10 := rfl
    rw [digitsValue_concat, List.length_append, List.length_singleton, hbound]
    omega

/-- No digits start with a zero but those of zero. -/
theorem toDigits_of_head_zero {n : Nat} (h : (Nat.toDigits 10 n).head? = some '0') :
    Nat.toDigits 10 n = ['0'] := by
  have hzero : ∀ m, (Nat.toDigits 10 m).head? = some '0' → m = 0 := by
    intro m
    induction m using Nat.strongRecOn with
    | ind m ih =>
      intro hm
      -- from ten on, the first digit is that of a tenth of the number
      by_cases hsmall : m < 10
      · rw [Nat.toDigits_of_lt_base hsmall] at hm
        exact Nat.digitChar_eq_zero.1 (Option.some.inj hm)
      · have hbase : 10 ≤ m := Nat.le_of_not_lt hsmall
        rw [Nat.toDigits_of_base_le (by decide) hbase,
          List.head?_append_of_ne_nil _ Nat.toDigits_ne_nil] at hm
        have htenth : m / 10 = 0 := ih (m / 10) (by omega) hm
        omega
  rw [hzero n h]
  rfl

theorem natAbs_withSign (negative : Bool) (n : Nat) : (withSign negative n).natAbs = n := by
  cases negative with
  | false => rfl
  | true => exact Int.natAbs_neg n

end TableDraft.Number
