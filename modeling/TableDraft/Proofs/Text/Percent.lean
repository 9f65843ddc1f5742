import TableDraft.Number.Digits
import TableDraft.Text.Percent
import TableDraft.Text.Utf8

namespace TableDraft.Text

namespace Utf8

theorem lead_ascii {n : Nat} (h : n < 0x80) : lead n = ([Char.ofNat n], .between) := by
  rw [lead, if_pos h]

theorem lead_two : ∀ k < 32, 2 ≤ k → lead (k + 0xC0) = ([], .inside k 1 0x80 0xBF) := by
  decide

/-- The first of three bytes. The second one is bounded, so that no shorter form would do and no
surrogate is meant. -/
theorem lead_three : ∀ k < 16, lead (k + 0xE0) =
    ([], .inside k 2 (if k = 0 then 0xA0 else 0x80) (if k = 13 then 0x9F else 0xBF)) := by
  decide

theorem lead_four : ∀ k < 5, lead (k + 0xF0) =
    ([], .inside k 3 (if k = 0 then 0x90 else 0x80) (if k = 4 then 0x8F else 0xBF)) := by
  decide

theorem step_last {bits low high m : Nat} (hm : m < 64) (hlow : low ≤ m + 0x80)
    (hhigh : m + 0x80 ≤ high) :
    step (.inside bits 1 low high) (m + 0x80) = ([Char.ofNat (bits * 64 + m)], .between) := by
  have hbits : (m + 0x80) % 64 = m := by omega
  simp [step, hlow, hhigh, hbits]

theorem step_more {bits due low high m : Nat} (hdue : 1 < due) (hm : m < 64)
    (hlow : low ≤ m + 0x80) (hhigh : m + 0x80 ≤ high) :
    step (.inside bits due low high) (m + 0x80) =
      ([], .inside (bits * 64 + m) (due - 1) 0x80 0xBF) := by
  have hbits : (m + 0x80) % 64 = m := by omega
  simp [step, hlow, hhigh, hbits, Nat.not_le.2 hdue]

theorem decodeFrom_cons (place : Place) {n : Nat} (h : n < 256) (r : List UInt8) :
    decodeFrom place (UInt8.ofNat n :: r) = (step place n).1 ++ decodeFrom (step place n).2 r := by
  have hn : (UInt8.ofNat n).toNat = n := UInt8.toNat_ofNat_of_lt' h
  rw [decodeFrom, hn]

section
variable {k l m n : Nat} (hl : l < 64) (hm : m < 64) (hn : n < 64) (r : List UInt8)
include hn

theorem decodeFrom_two (hk : k < 32) (hshort : 2 ≤ k) :
    decodeFrom .between (UInt8.ofNat (k + 0xC0) :: UInt8.ofNat (n + 0x80) :: r) =
      Char.ofNat (k * 64 + n) :: decodeFrom .between r := by
  rw [decodeFrom_cons _ (by omega), step, lead_two k hk hshort, decodeFrom_cons _ (by omega),
    step_last hn (by omega) (by omega)]
  rfl

include hm

theorem decodeFrom_three (hk : k < 16) (hshort : k = 0 → 32 ≤ m) (hsurrogate : k = 13 → m < 32) :
    decodeFrom .between
        (UInt8.ofNat (k + 0xE0) :: UInt8.ofNat (m + 0x80) :: UInt8.ofNat (n + 0x80) :: r) =
      Char.ofNat ((k * 64 + m) * 64 + n) :: decodeFrom .between r := by
  have hlow : (if k = 0 then 0xA0 else 0x80) ≤ m + 0x80 := by split <;> omega
  have hhigh : m + 0x80 ≤ if k = 13 then 0x9F else 0xBF := by split <;> omega
  rw [decodeFrom_cons _ (by omega), step, lead_three k hk, decodeFrom_cons _ (by omega),
    step_more (by decide) hm hlow hhigh, decodeFrom_cons _ (by omega),
    step_last hn (by omega) (by omega)]
  rfl

include hl

theorem decodeFrom_four (hk : k < 5) (hshort : k = 0 → 16 ≤ l) (hlast : k = 4 → l < 16) :
    decodeFrom .between (UInt8.ofNat (k + 0xF0) :: UInt8.ofNat (l + 0x80) ::
        UInt8.ofNat (m + 0x80) :: UInt8.ofNat (n + 0x80) :: r) =
      Char.ofNat (((k * 64 + l) * 64 + m) * 64 + n) :: decodeFrom .between r := by
  have hlow : (if k = 0 then 0x90 else 0x80) ≤ l + 0x80 := by split <;> omega
  have hhigh : l + 0x80 ≤ if k = 4 then 0x8F else 0xBF := by split <;> omega
  rw [decodeFrom_cons _ (by omega), step, lead_four k hk, decodeFrom_cons _ (by omega),
    step_more (by decide) hl hlow hhigh, decodeFrom_cons _ (by omega),
    step_more (by decide) hm (by omega) (by omega), decodeFrom_cons _ (by omega),
    step_last hn (by omega) (by omega)]
  rfl

end

/-- The bytes of a character are read as that character. -/
theorem decodeFrom_utf8EncodeChar (c : Char) (r : List UInt8) :
    decodeFrom .between (String.utf8EncodeChar c ++ r) = c :: decodeFrom .between r := by
  have hvalid : c.val.toNat < 0xD800 ∨ 0xDFFF < c.val.toNat ∧ c.val.toNat < 0x110000 := c.valid
  have hchar : c = Char.ofNat c.val.toNat := (Char.ofNat_toNat c).symm
  unfold String.utf8EncodeChar
  generalize c.val.toNat = n at hvalid hchar
  rw [hchar]
  dsimp only
  split
  · rw [List.singleton_append, decodeFrom_cons _ (by omega), step, lead_ascii (by omega)]
    rfl
  · split
    · exact (decodeFrom_two (by omega) r (by omega) (by omega)).trans (by congr 2; omega)
    · split
      · exact (decodeFrom_three (by omega) (by omega) r (by omega) (by omega) (by omega)).trans
          (by congr 2; omega)
      · exact (decodeFrom_four (by omega) (by omega) (by omega) r (by omega) (by omega)
          (by omega)).trans (by congr 2; omega)

theorem decodeLossy_utf8 (s : List Char) : decodeLossy (s.flatMap String.utf8EncodeChar) = s := by
  have hall : ∀ r, decodeFrom .between (s.flatMap String.utf8EncodeChar ++ r) =
      s ++ decodeFrom .between r := by
    intro r
    induction s with
    | nil => rfl
    | cons c s ih =>
      rw [List.flatMap_cons, List.append_assoc, decodeFrom_utf8EncodeChar, ih]
      rfl
  simpa [decodeLossy, decodeFrom] using hall []

end Utf8

namespace Percent
open TableDraft.Number

/-- Characters that stand for themselves, and bytes written as a percent sign and two hexadecimal
digits. -/
inductive IsEncoded : List Char → Prop
  | nil : IsEncoded []
  | plain {c : Char} {r : List Char} (hc : isUnreserved c = true) (hr : IsEncoded r) :
    IsEncoded (c :: r)
  | triple {x y : Char} {m n : Nat} {r : List Char} (hx : hexValue? x = some m)
    (hy : hexValue? y = some n) (hr : IsEncoded r) : IsEncoded ('%' :: x :: y :: r)

/-- The bytes of a text, with those that are written in hexadecimal digits. -/
def bytes : List Char → List UInt8
  | [] => []
  | '%' :: x :: y :: r =>
    match hexValue? x, hexValue? y with
    | some m, some n => UInt8.ofNat (m * 16 + n) :: bytes r
    | _, _ => String.utf8EncodeChar '%' ++ bytes (x :: y :: r)
  | c :: r => String.utf8EncodeChar c ++ bytes r

def decode (s : List Char) : List Char :=
  Utf8.decodeLossy (bytes s)

theorem bytes_triple {x y : Char} {m n : Nat} (hx : hexValue? x = some m) (hy : hexValue? y = some n)
    (r : List Char) : bytes ('%' :: x :: y :: r) = UInt8.ofNat (m * 16 + n) :: bytes r := by
  rw [bytes, hx, hy]

theorem bytes_cons {c : Char} (hc : c ≠ '%') (r : List Char) :
    bytes (c :: r) = String.utf8EncodeChar c ++ bytes r := by
  rw [bytes]
  rintro x y t rfl
  exact absurd rfl hc

theorem hexValue?_hexDigit : ∀ n < 16, hexValue? (hexDigit n) = some n := by
  decide

theorem toNat_lt_of_isUnreserved {c : Char} (h : isUnreserved c = true) : c.toNat < 0x80 := by
  simp only [isUnreserved, isAsciiLetter, isAsciiDigit, Bool.or_eq_true, Bool.and_eq_true,
    decide_eq_true_eq, beq_iff_eq] at h
  obtain ((((hletter | hdigit) | rfl) | rfl) | rfl) | rfl := h
  · omega
  · omega
  all_goals decide

theorem utf8EncodeChar_of_isUnreserved {b : UInt8} (h : isUnreserved (Char.ofNat b.toNat) = true) :
    String.utf8EncodeChar (Char.ofNat b.toNat) = [b] := by
  have hvalid : b.toNat.isValidChar := .inl (Nat.lt_trans b.toNat_lt (by decide))
  have hvalue : (Char.ofNat b.toNat).toNat = b.toNat := by
    rw [Char.ofNat, dif_pos hvalid]
    rfl
  have hascii : (Char.ofNat b.toNat).toNat ≤ 0x7F := Nat.le_of_lt_succ (toNat_lt_of_isUnreserved h)
  unfold String.utf8EncodeChar
  dsimp only
  refine (if_pos hascii).trans ?_
  rw [← Char.toNat, hvalue, UInt8.ofNat_toNat]

theorem bytes_encodeByte (b : UInt8) (r : List Char) : bytes (encodeByte b ++ r) = b :: bytes r := by
  rw [encodeByte]
  split
  case isTrue hc =>
    have hpercent : Char.ofNat b.toNat ≠ '%' := by
      intro h
      rw [h] at hc
      exact absurd hc (by decide)
    rw [List.singleton_append, bytes_cons hpercent, utf8EncodeChar_of_isUnreserved hc]
    rfl
  case isFalse =>
    have hb : b.toNat < 256 := b.toNat_lt
    have hjoined : b.toNat / 16 * 16 + b.toNat % 16 = b.toNat := by omega
    refine (bytes_triple (hexValue?_hexDigit _ (by omega)) (hexValue?_hexDigit _ (by omega)) r).trans ?_
    rw [hjoined, UInt8.ofNat_toNat]

theorem bytes_encoded (bs : List UInt8) : bytes (bs.flatMap encodeByte) = bs := by
  induction bs with
  | nil => rfl
  | cons b bs ih => rw [List.flatMap_cons, bytes_encodeByte, ih]

/-- What was encoded is read back. -/
theorem decode_encode (s : List Char) : decode (encode s) = s := by
  rw [decode, encode, bytes_encoded, Utf8.decodeLossy_utf8]

theorem encode_injective : Function.Injective encode :=
  Function.LeftInverse.injective decode_encode

theorem IsEncoded.encodeByte_append {r : List Char} (hr : IsEncoded r) (b : UInt8) :
    IsEncoded (encodeByte b ++ r) := by
  rw [encodeByte]
  split
  case isTrue hc => exact .plain hc hr
  case isFalse =>
    have hb : b.toNat < 256 := b.toNat_lt
    exact .triple (hexValue?_hexDigit _ (by omega)) (hexValue?_hexDigit _ (by omega)) hr

theorem isEncoded_encode (s : List Char) : IsEncoded (encode s) := by
  rw [encode]
  induction s.flatMap String.utf8EncodeChar with
  | nil => exact .nil
  | cons b bs ih => exact ih.encodeByte_append b

/-- Nothing that separates the parts of a URL is left in an encoded text. -/
theorem IsEncoded.not_mem {s : List Char} (h : IsEncoded s) {c : Char} (hc : isUnreserved c = false)
    (hpercent : c ≠ '%') (hdigit : hexValue? c = none) : c ∉ s := by
  induction h with
  | nil => exact List.not_mem_nil
  | plain hd hr ih =>
    rw [List.mem_cons, not_or]
    refine ⟨?_, ih⟩
    rintro rfl
    exact Bool.noConfusion (hc.symm.trans hd)
  | triple hx hy hr ih =>
    simp only [List.mem_cons, not_or]
    refine ⟨hpercent, ?_, ?_, ih⟩
    · rintro rfl
      exact nomatch hdigit.symm.trans hx
    · rintro rfl
      exact nomatch hdigit.symm.trans hy

end Percent

end TableDraft.Text
