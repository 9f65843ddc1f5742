import TableDraft.Json.Reader
import TableDraft.Json.Writer
import TableDraft.Proofs.Number.Digits

namespace TableDraft.Json
open TableDraft.Number TableDraft.Text

theorem hexUnit?_lowHex {n : Nat} (h : n < 0x20) :
    hexUnit? (lowHexDigit (n / 16 / 16 / 16 % 16)) (lowHexDigit (n / 16 / 16 % 16))
      (lowHexDigit (n / 16 % 16)) (lowHexDigit (n % 16)) = some n := by
  revert n
  decide

theorem textBody_unit {a b c d : Char} {n : Nat} (h : hexUnit? a b c d = some n) (hn : n < 0xD800)
    (r : List Char) : textBody ('\\' :: 'u' :: a :: b :: c :: d :: r) =
      (textBody r).map fun p => (Char.ofNat n :: p.1, p.2) := by
  have hhigh : isHighSurrogate n = false := by
    simp only [isHighSurrogate, Bool.and_eq_false_iff, decide_eq_false_iff_not]
    omega
  have hlow : isLowSurrogate n = false := by
    simp only [isLowSurrogate, Bool.and_eq_false_iff, decide_eq_false_iff_not]
    omega
  rw [textBody, h]
  simp only [hhigh, hlow, Bool.false_eq_true, if_false]

theorem textBody_plain {c : Char} (hquote : c ≠ '"') (hslash : c ≠ '\\') (hc : 0x20 ≤ c.toNat)
    (r : List Char) : textBody (c :: r) = (textBody r).map fun p => (c :: p.1, p.2) := by
  rw [textBody]
  · rw [if_neg]
    simp only [Bool.or_eq_true, decide_eq_true_eq, not_or]
    exact ⟨by omega, hslash⟩
  · exact hquote
  · exact fun _ _ _ _ _ h => absurd h hslash
  · exact fun _ _ h => absurd h hslash

/-- Characters with an escape of two characters, each with the second of them. -/
def shortEscapes : List (Char × Char) :=
  [('"', '"'), ('\\', '\\'), ('\x08', 'b'), ('\x0C', 'f'), ('\n', 'n'), ('\r', 'r'), ('\t', 't')]

theorem escapeChar_cases (c : Char) :
    (∃ d, (c, d) ∈ shortEscapes ∧ escapeChar c = ['\\', d]) ∨
      (c.toNat < 0x20 ∧ escapeChar c = '\\' :: 'u' :: lowHex 4 c.toNat) ∨
      (c ≠ '"' ∧ c ≠ '\\' ∧ 0x20 ≤ c.toNat ∧ escapeChar c = [c]) := by
  by_cases hshort : ∃ d, (c, d) ∈ shortEscapes
  · obtain ⟨d, hd⟩ := hshort
    refine .inl ⟨d, hd, ?_⟩
    simp only [shortEscapes, List.mem_cons, List.not_mem_nil, or_false, Prod.mk.injEq] at hd
    obtain ⟨rfl, rfl⟩ | ⟨rfl, rfl⟩ | ⟨rfl, rfl⟩ | ⟨rfl, rfl⟩ | ⟨rfl, rfl⟩ | ⟨rfl, rfl⟩ | ⟨rfl, rfl⟩ :=
      hd <;> rfl
  · have hne : ∀ p ∈ shortEscapes, c ≠ p.1 := by
      rintro ⟨_, d⟩ hd rfl
      exact hshort ⟨d, hd⟩
    simp only [shortEscapes, List.forall_mem_cons] at hne
    obtain ⟨hquote, hslash, hb, hf, hn, hr, ht, -⟩ := hne
    rw [escapeChar, if_neg hquote, if_neg hslash, if_neg hb, if_neg hf, if_neg hn, if_neg hr,
      if_neg ht]
    by_cases hc : c.toNat < 0x20
    · exact .inr (.inl ⟨hc, if_pos hc⟩)
    · exact .inr (.inr ⟨hquote, hslash, Nat.le_of_not_lt hc, if_neg hc⟩)

theorem escaped?_of_mem_shortEscapes : ∀ p ∈ shortEscapes, p.2 ≠ 'u' ∧ escaped? p.2 = some p.1 := by
  decide

theorem textBody_escaped {c d : Char} (hu : d ≠ 'u') (h : escaped? d = some c) (r : List Char) :
    textBody ('\\' :: d :: r) = (textBody r).map fun p => (c :: p.1, p.2) := by
  rw [textBody, h]
  exact fun _ _ _ _ _ hd => absurd hd hu

theorem textBody_escapeChar (c : Char) (r : List Char) :
    textBody (escapeChar c ++ r) = (textBody r).map fun p => (c :: p.1, p.2) := by
  obtain ⟨d, hd, h⟩ | ⟨hc, h⟩ | ⟨hquote, hslash, hc, h⟩ := escapeChar_cases c
  · obtain ⟨hu, hescaped⟩ := escaped?_of_mem_shortEscapes (c, d) hd
    rw [h]
    exact textBody_escaped hu hescaped r
  · have hunit := textBody_unit (hexUnit?_lowHex hc) (by omega) r
    rw [Char.ofNat_toNat] at hunit
    rw [h]
    exact hunit
  · rw [h]
    exact textBody_plain hquote hslash hc r

theorem textBody_flatMap_escapeChar (s r : List Char) :
    textBody (s.flatMap escapeChar ++ '"' :: r) = some (s, r) := by
  induction s with
  | nil => rfl
  | cons c s ih =>
    rw [List.flatMap_cons, List.append_assoc, textBody_escapeChar, ih]
    rfl

theorem return_not_mem_lowHex {n : Nat} (h : n < 0x20) : '\r' ∉ '\\' :: 'u' :: lowHex 4 n := by
  revert n
  decide

/-- A carriage return is written as an escape, and no other escape has one. -/
theorem return_not_mem_escapeChar (c : Char) : '\r' ∉ escapeChar c := by
  obtain ⟨d, hd, h⟩ | ⟨hc, h⟩ | ⟨-, -, hc, h⟩ := escapeChar_cases c
  · have hescape : ∀ p ∈ shortEscapes, '\r' ∉ ['\\', p.2] := by decide
    rw [h]
    exact hescape (c, d) hd
  · rw [h]
    exact return_not_mem_lowHex hc
  · rw [h, List.mem_singleton]
    rintro rfl
    exact absurd hc (by decide)

/-- No number goes on into `s`. -/
def EndsNumber (s : List Char) : Prop :=
  ∀ c ∈ s.head?, isAsciiDigit c = false ∧ c ≠ '.' ∧ c ≠ 'e' ∧ c ≠ 'E'

namespace EndsNumber

variable {r : List Char}

theorem takeWhile (h : EndsNumber r) : r.takeWhile isAsciiDigit = [] := by
  cases r with
  | nil => rfl
  | cons c r => rw [List.takeWhile_cons_of_neg (by rw [(h c rfl).1]; exact Bool.false_ne_true)]

theorem dropWhile (h : EndsNumber r) : r.dropWhile isAsciiDigit = r := by
  cases r with
  | nil => rfl
  | cons c r => rw [List.dropWhile_cons_of_neg (by rw [(h c rfl).1]; exact Bool.false_ne_true)]

theorem fraction? (h : EndsNumber r) : fraction? r = some (none, r) := by
  cases r with
  | nil => rfl
  | cons c r =>
    rw [Json.fraction?]
    rintro _ ⟨⟩
    exact (h _ rfl).2.1 rfl

theorem exponent? (h : EndsNumber r) : exponent? r = some (none, r) := by
  cases r with
  | nil => rfl
  | cons c r =>
    obtain ⟨-, -, he, hE⟩ := h c rfl
    rw [Json.exponent?, if_neg (not_or.2 ⟨he, hE⟩)]

end EndsNumber

theorem unsigned?_toDigits {longest n : Nat} (hn : n < digitBound longest) (hpos : 0 < longest)
    (negative : Bool) {r : List Char} (hr : EndsNumber r) :
    unsigned? longest negative (Nat.toDigits 10 n ++ r) =
      some (.int (withSign negative n), r) := by
  have hdigits : ∀ c ∈ Nat.toDigits 10 n, isAsciiDigit c = true :=
    fun _ => isAsciiDigit_of_mem_toDigits
  have hwhole : (Nat.toDigits 10 n ++ r).takeWhile isAsciiDigit = Nat.toDigits 10 n := by
    rw [List.takeWhile_append_of_pos hdigits, hr.takeWhile, List.append_nil]
  have hrest : (Nat.toDigits 10 n ++ r).dropWhile isAsciiDigit = r := by
    rw [List.dropWhile_append_of_pos hdigits, hr.dropWhile]
  have hshort : ¬ longest < (Nat.toDigits 10 n).length :=
    Nat.not_lt.2 (length_toDigits_le hn hpos)
  have hform : ((Nat.toDigits 10 n).isEmpty || ((Nat.toDigits 10 n).head? == some '0' &&
      (Nat.toDigits 10 n).length != 1)) = false := by
    rw [Bool.or_eq_false_iff]
    refine ⟨by simp, ?_⟩
    cases hzero : (Nat.toDigits 10 n).head? == some '0' with
    | false => rfl
    | true =>
      rw [toDigits_of_head_zero (eq_of_beq hzero)]
      rfl
  simp only [unsigned?, hwhole, hrest, hform, Bool.false_eq_true, if_false, if_neg hshort,
    hr.fraction?, hr.exponent?, Option.bind_eq_bind, Option.bind_some, Option.pure_def,
    digitsValue_toDigits]

theorem toDigits_eq_cons (n : Nat) :
    ∃ c r, Nat.toDigits 10 n = c :: r ∧ isAsciiDigit c = true := by
  cases hdigits : Nat.toDigits 10 n with
  | nil => exact absurd hdigits Nat.toDigits_ne_nil
  | cons c r =>
    refine ⟨c, r, rfl, isAsciiDigit_of_mem_toDigits (n := n) ?_⟩
    rw [hdigits]
    exact List.mem_cons_self

/-- A whole number is a number without a sign, or a minus sign and one. -/
theorem toList_toString_cases (n : Int) :
    (0 ≤ n ∧ (toString n).toList = Nat.toDigits 10 n.natAbs) ∨
      (n < 0 ∧ (toString n).toList = '-' :: Nat.toDigits 10 n.natAbs) := by
  cases n with
  | ofNat m =>
    refine .inl ⟨Int.natCast_nonneg m, ?_⟩
    show (toString m).toList = _
    rw [Nat.toString_eq_ofList_toDigits, String.toList_ofList]
    rfl
  | negSucc m =>
    refine .inr ⟨Int.negSucc_lt_zero m, ?_⟩
    show ("-" ++ toString (m + 1)).toList = _
    rw [String.toList_append, Nat.toString_eq_ofList_toDigits]
    simp only [String.toList_ofList]
    rfl

theorem number?_toString {longest : Nat} {n : Int} (hn : n.natAbs < digitBound longest)
    (hpos : 0 < longest) {r : List Char} (hr : EndsNumber r) :
    number? longest ((toString n).toList ++ r) = some (.int n, r) := by
  obtain ⟨hsign, htoken⟩ | ⟨hsign, htoken⟩ := toList_toString_cases n
  · have hunsigned := unsigned?_toDigits hn hpos false hr
    obtain ⟨c, t, hcons, hc⟩ := toDigits_eq_cons n.natAbs
    have hminus : c ≠ '-' := by
      rintro rfl
      cases hc
    rw [withSign, if_neg Bool.false_ne_true, Int.natAbs_of_nonneg hsign] at hunsigned
    rw [htoken, ← hunsigned, hcons, List.cons_append, number?]
    rintro _ ⟨⟩
    exact hminus rfl
  · have hunsigned := unsigned?_toDigits hn hpos true hr
    have hvalue : -(n.natAbs : Int) = n := by omega
    rw [withSign, if_pos rfl, hvalue] at hunsigned
    rw [htoken, List.cons_append, number?, hunsigned]

end TableDraft.Json
