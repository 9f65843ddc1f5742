import TableDraft.Script

namespace TableDraft.Script
open TableDraft.Text TableDraft.Sql

theorem onFirst_onFirst (p q : List Char) (fs : List (List Char)) :
    onFirst p (onFirst q fs) = onFirst (p ++ q) fs := by
  cases fs with
  | nil => rfl
  | cons f fs => simp [onFirst]

theorem onFirst_ne_nil (p : List Char) (fs : List (List Char)) : onFirst p fs ≠ [] := by
  cases fs <;> simp [onFirst]

theorem fragments_ne_nil (depth : Nat) (s : List Char) : fragments depth s ≠ [] := by
  cases s with
  | nil => simp [fragments]
  | cons c r =>
    rw [fragments]
    split
    · simp
    · exact onFirst_ne_nil _ _

theorem fragments_semicolon (r : List Char) : fragments 0 (';' :: r) = [] :: fragments 0 r := by
  rw [fragments, if_pos ⟨rfl, rfl⟩]

/-- From `depth` open blocks the scan takes `p` whole when `rest` follows, and leaves `after`
blocks open. -/
def Takes (depth : Nat) (p : List Char) (after : Nat) (rest : List Char) : Prop :=
  fragments depth (p ++ rest) = onFirst p (fragments after rest)

theorem takes_nil (depth : Nat) (rest : List Char) : Takes depth [] depth rest := by
  obtain ⟨f, fs, h⟩ := List.exists_cons_of_ne_nil (fragments_ne_nil depth rest)
  rw [Takes, List.nil_append, h]
  rfl

theorem Takes.append {depth between after : Nat} {p q rest : List Char}
    (hp : Takes depth p between (q ++ rest)) (hq : Takes between q after rest) :
    Takes depth (p ++ q) after rest := by
  unfold Takes at *
  rw [List.append_assoc, hp, hq, onFirst_onFirst]

/-- The first fragment goes on behind what is taken. -/
theorem Takes.head?_iff {depth after : Nat} {p t rest : List Char} (h : Takes depth p after rest) :
    (fragments depth (p ++ rest)).head? = some (p ++ t) ↔
      (fragments after rest).head? = some t := by
  obtain ⟨f, fs, hf⟩ := List.exists_cons_of_ne_nil (fragments_ne_nil after rest)
  rw [h, hf]
  simp [onFirst]

theorem takes_of_lexeme {depth after : Nat} {c : Char} {p rest r : List Char}
    (hr : c :: r = p ++ rest) (hc : c ≠ ';' ∨ 0 < depth)
    (h : lexeme depth c r = ⟨p, rest, after⟩) : Takes depth p after rest := by
  have hn : ¬(c = ';' ∧ depth = 0) := fun ⟨h₁, h₂⟩ => hc.elim (· h₁) (by omega)
  rw [Takes, ← hr, fragments, if_neg hn]
  simp only [h]

/-- A character with which a word may start. -/
def startsWord (c : Char) : Bool :=
  isLetter c || c == '_'

theorem isWordChar_of_startsWord {c : Char} (h : startsWord c = true) : isWordChar c = true := by
  simp only [startsWord, isWordChar, Bool.or_eq_true] at *
  exact h.imp_left .inl

theorem startsWord_of_not_word {c : Char} (h : isWordChar c = false) : startsWord c = false := by
  rw [Bool.eq_false_iff] at *
  exact fun hs => h (isWordChar_of_startsWord hs)

theorem lexeme_mark {c : Char} (hw : startsWord c = false) (hq : isQuote c = false) (depth : Nat)
    (r : List Char) : lexeme depth c r = ⟨[c], r, depth⟩ := by
  have hstart : (isLetter c || c == '_') = false := hw
  rw [lexeme, hq, hstart]
  rfl

theorem takes_mark {depth : Nat} {c : Char} (rest : List Char) (hw : startsWord c = false)
    (hq : isQuote c = false) (hc : c ≠ ';' ∨ 0 < depth) : Takes depth [c] depth rest :=
  takes_of_lexeme rfl hc (lexeme_mark hw hq depth rest)

theorem literal_cons {q c : Char} (r : List Char) (hc : c ≠ q) (hb : c ≠ '\\' ∨ q = backQuote) :
    literal q (c :: r) = (c :: (literal q r).1, (literal q r).2) := by
  cases r with
  | nil => rfl
  | cons d r => rw [literal, if_neg fun h => hb.elim (· h.1) h.2, if_neg hc]

theorem literal_escape {q : Char} (hq : q ≠ backQuote) (c : Char) (r : List Char) :
    literal q ('\\' :: c :: r) = ('\\' :: c :: (literal q r).1, (literal q r).2) := by
  rw [literal, if_pos ⟨rfl, hq⟩]

/-- What stands behind an opening quote `q`, up to the quote that closes it. -/
inductive Closes (q : Char) : List Char → Prop
  | quote : Closes q [q]
  | escaped {c : Char} {s : List Char} (hq : q ≠ backQuote) (h : Closes q s) :
    Closes q ('\\' :: c :: s)
  | doubled {s : List Char} (h : Closes q s) : Closes q (q :: q :: s)
  | plain {c : Char} {s : List Char} (hc : c ≠ q) (hb : c ≠ '\\' ∨ q = backQuote)
    (h : Closes q s) : Closes q (c :: s)

/-- The reader of a literal stops at the quote that closes it. -/
theorem Closes.literal {q : Char} {s rest : List Char} (h : Closes q s)
    (hr : ∀ c ∈ rest.head?, c ≠ q) (hq : q ≠ '\\') : literal q (s ++ rest) = (s, rest) := by
  induction h with
  | quote =>
    cases rest with
    | nil => rfl
    | cons d r =>
      have hd : d ≠ q := hr d rfl
      simp [Script.literal, hq, hd]
  | escaped hn h ih => rw [List.cons_append, List.cons_append, literal_escape hn, ih]
  | doubled h ih => simp [Script.literal, hq, ih]
  | plain hc hb h ih => rw [List.cons_append, literal_cons _ hc hb, ih]

theorem closes_doubled {q : Char} {s : List Char} (hs : q = backQuote ∨ '\\' ∉ s) :
    Closes q (doubled q s ++ [q]) := by
  induction s with
  | nil => exact .quote
  | cons c s ih =>
    have ih := ih (hs.imp_right fun h m => h (List.mem_cons_of_mem c m))
    rw [doubled_cons]
    by_cases hc : c = q
    · subst hc
      rw [if_pos rfl]
      exact .doubled ih
    · rw [if_neg hc]
      exact .plain hc (hs.symm.imp_left fun h e => h (e ▸ List.mem_cons_self)) ih

theorem takes_literal {q : Char} {s rest : List Char} (depth : Nat) (hq : isQuote q = true)
    (h : Closes q s) (hr : ∀ c ∈ rest.head?, c ≠ q) : Takes depth (q :: s) depth rest := by
  have hne : q ≠ ';' ∧ q ≠ '\\' := by
    constructor <;> rintro rfl <;> exact absurd hq (by decide)
  refine takes_of_lexeme rfl (.inl hne.1) ?_
  simp [lexeme, hq, h.literal hr hne.2]

/-- No word and no quoted text goes on into `s`. -/
def atBreak (s : List Char) : Bool :=
  s.head?.all fun c => !isWordChar c && !isQuote c

theorem atBreak_append {p q : List Char} (hp : atBreak p = true) (hq : atBreak q = true) :
    atBreak (p ++ q) = true := by
  cases p with
  | nil => exact hq
  | cons c r => exact hp

theorem atBreak_append_of_ne_nil {p : List Char} (q : List Char) (h : p ≠ []) :
    atBreak (p ++ q) = atBreak p := by
  cases p with
  | nil => exact absurd rfl h
  | cons c r => rfl

theorem atBreak_of_isPrefix {p s : List Char} (h : p <+: s) (hs : atBreak s = true) :
    atBreak p = true := by
  obtain ⟨t, rfl⟩ := h
  cases p with
  | nil => rfl
  | cons c p => exact hs

theorem atWordEnd_of_atBreak {s : List Char} (h : atBreak s = true) : atWordEnd s = true := by
  cases s with
  | nil => rfl
  | cons c r => simp_all [atBreak, atWordEnd]

theorem ne_quote_of_atBreak {s : List Char} {q : Char} (h : atBreak s = true)
    (hq : isQuote q = true) : ∀ c ∈ s.head?, c ≠ q := by
  intro c hc e
  subst e
  simp [atBreak, Option.mem_def.1 hc, hq] at h

/-- A piece that the scan takes whole outside blocks, if only no word and no quoted text goes on
behind it. -/
def Whole (p : List Char) : Prop :=
  ∀ rest, atBreak rest = true → Takes 0 p 0 rest

theorem Whole.append {p q : List Char} (hp : Whole p) (hq : Whole q) (h : atBreak q = true) :
    Whole (p ++ q) :=
  fun rest hr => (hp _ (atBreak_append h hr)).append (hq rest hr)

theorem whole_nil : Whole [] := fun rest _ => takes_nil 0 rest

theorem Whole.cons {c : Char} {p : List Char} (hp : Whole p) (hw : isWordChar c = false)
    (hq : isQuote c = false) (hc : c ≠ ';') : Whole (c :: p) :=
  fun rest hr => (takes_mark _ (startsWord_of_not_word hw) hq (.inl hc)).append (hp rest hr)

theorem whole_quoted {q : Char} (s : List Char) (hq : isQuote q = true)
    (hs : q = backQuote ∨ '\\' ∉ s) : Whole (q :: (doubled q s ++ [q])) :=
  fun _ hr => takes_literal 0 hq (closes_doubled hs) (ne_quote_of_atBreak hr hq)

theorem whole_quotedIdent (name : List Char) : Whole (quotedIdent name) :=
  whole_quoted (trim name) rfl (.inl rfl)

/-- A semicolon behind the text ends it, and the scan begins anew. -/
def Closed (s : List Char) : Prop :=
  ∀ rest, fragments 0 (s ++ ';' :: rest) = s :: fragments 0 rest

theorem closed_of_takes {p : List Char} (h : ∀ rest, Takes 0 p 0 (';' :: rest)) : Closed p := by
  intro rest
  rw [h rest, fragments_semicolon]
  simp [onFirst]

theorem Whole.closed {p : List Char} (hp : Whole p) : Closed p :=
  closed_of_takes fun rest => hp (';' :: rest) (by rfl)

end TableDraft.Script
