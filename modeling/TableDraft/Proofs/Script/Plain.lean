import Mathlib.Data.List.Infix
import TableDraft.Proofs.Script.Scan

namespace TableDraft.Script
open TableDraft.Text TableDraft.Sql

/-- Without quotes and semicolons, and without `BEGIN` and `CASE` anywhere once in capitals. -/
structure Plain (s : List Char) : Prop where
  unquoted : ∀ c ∈ s, isQuote c = false
  noSemicolon : ';' ∉ s
  noBegin : ¬"BEGIN".toList <:+: upper s
  noCase : ¬"CASE".toList <:+: upper s

theorem plain_iff (s : List Char) : Plain s ↔
    ((s.all fun c => !isQuote c && c != ';') = true ∧ ¬"BEGIN".toList <:+: upper s ∧
      ¬"CASE".toList <:+: upper s) := by
  simp only [List.all_eq_true, Bool.and_eq_true, Bool.not_eq_true', bne_iff_ne]
  constructor
  · rintro ⟨hq, hs, hb, hc⟩
    exact ⟨fun c m => ⟨hq c m, fun h => hs (h ▸ m)⟩, hb, hc⟩
  · rintro ⟨h, hb, hc⟩
    exact ⟨fun c m => (h c m).1, fun m => (h _ m).2 rfl, hb, hc⟩

instance (s : List Char) : Decidable (Plain s) :=
  decidable_of_iff' _ (plain_iff s)

theorem upper_isInfix {s t : List Char} (h : s <:+: t) : upper s <:+: upper t := by
  obtain ⟨a, b, rfl⟩ := h
  exact ⟨upper a, upper b, by simp [upper]⟩

theorem Plain.of_isInfix {s t : List Char} (ht : Plain t) (h : s <:+: t) : Plain s where
  unquoted c m := ht.unquoted c (h.subset m)
  noSemicolon m := ht.noSemicolon (h.subset m)
  noBegin hb := ht.noBegin (hb.trans (upper_isInfix h))
  noCase hc := ht.noCase (hc.trans (upper_isInfix h))

def endsInWord (s : List Char) : Bool :=
  s.getLast?.any isWordChar

theorem endsInWord_of_suffix {s t : List Char} (h : s <:+ t) (ht : endsInWord t = false) :
    endsInWord s = false := by
  obtain ⟨a, rfl⟩ := h
  cases s with
  | nil => rfl
  | cons c r => rwa [endsInWord, List.getLast?_append_of_ne_nil _ (List.cons_ne_nil c r)] at ht

/-- A word that starts in `r` ends there, unless `r` ends inside it and `rest` goes on with it. -/
theorem span_word {c : Char} {r rest : List Char} (hc : isWordChar c = true)
    (h : endsInWord (c :: r) = false ∨ atWordEnd rest = true) :
    (r ++ rest).takeWhile isWordChar = r.takeWhile isWordChar ∧
      (r ++ rest).dropWhile isWordChar = r.dropWhile isWordChar ++ rest := by
  induction r generalizing c with
  | nil =>
    have hr : atWordEnd rest = true := h.resolve_left (by simp [endsInWord, hc])
    cases rest with
    | nil => exact ⟨rfl, rfl⟩
    | cons d s => simp_all [atWordEnd]
  | cons d r ih =>
    by_cases hd : isWordChar d = true
    · have := ih hd (h.imp_left (endsInWord_of_suffix (List.suffix_cons c (d :: r))))
      simp [hd, this]
    · simp [hd]

theorem wordLexeme_plain {w : List Char} (rest : List Char) (h : Plain w) :
    wordLexeme 0 w rest = ⟨w, rest, 0⟩ := by
  have hb : upper w ≠ "BEGIN".toList := fun e => h.noBegin (e ▸ List.infix_rfl)
  have hc : upper w ≠ "CASE".toList := fun e => h.noCase (e ▸ List.infix_rfl)
  unfold wordLexeme
  dsimp only
  rw [if_neg hb, if_neg hc, if_neg fun e => Nat.lt_irrefl 0 e.2]

/-- Outside blocks a plain text is taken whole, if no word runs over its end. -/
theorem takes_plain {p rest : List Char} (hp : Plain p)
    (h : endsInWord p = false ∨ atWordEnd rest = true) : Takes 0 p 0 rest := by
  match p with
  | [] => exact takes_nil 0 rest
  | c :: r =>
    have hq : isQuote c = false := hp.unquoted c List.mem_cons_self
    have hs : c ≠ ';' := fun e => hp.noSemicolon (e ▸ List.mem_cons_self)
    by_cases hw : (isLetter c || c == '_') = true
    · -- a word is taken at once, and what is left of `p` is plain again
      have hc : isWordChar c = true := by
        simp only [isWordChar, Bool.or_eq_true] at *
        exact hw.elim (.inl ∘ .inl) .inr
      obtain ⟨htake, hdrop⟩ := span_word hc h
      have hword : Plain (c :: r.takeWhile isWordChar) :=
        hp.of_isInfix (List.prefix_cons_inj c |>.2 (List.takeWhile_prefix _)).isInfix
      have hsuf : r.dropWhile isWordChar <:+ c :: r :=
        (List.dropWhile_suffix _).trans (List.suffix_cons c r)
      have hrest := takes_plain (hp.of_isInfix hsuf.isInfix)
        (h.imp_left (endsInWord_of_suffix hsuf))
      have hfirst : Takes 0 (c :: r.takeWhile isWordChar) 0 (r.dropWhile isWordChar ++ rest) := by
        refine takes_of_lexeme (r := r ++ rest) ?_ (.inl hs) ?_
        · rw [List.cons_append, ← List.append_assoc, List.takeWhile_append_dropWhile]
        · simp only [lexeme, hq, hw, htake, hdrop, wordLexeme_plain _ hword]
          rfl
      have := hfirst.append hrest
      rwa [List.cons_append, List.takeWhile_append_dropWhile] at this
    · have hfirst : Takes 0 [c] 0 (r ++ rest) := by
        refine takes_of_lexeme rfl (.inl hs) ?_
        simp [lexeme, hq, hw]
      exact hfirst.append (takes_plain (hp.of_isInfix (List.suffix_cons c r).isInfix)
        (h.imp_left (endsInWord_of_suffix (List.suffix_cons c r))))
termination_by p.length
decreasing_by
  · have := (List.dropWhile_suffix isWordChar (l := r)).length_le
    simp only [List.length_cons]
    omega
  · simp

theorem whole_plain {p : List Char} (hp : Plain p) : Whole p :=
  fun _ hr => takes_plain hp (.inr (atWordEnd_of_atBreak hr))

/-- Behind plain words that end outside a word anything may follow. -/
theorem Whole.after_plain {p q : List Char} (hq : Whole q) (hp : Plain p)
    (h : endsInWord p = false) : Whole (p ++ q) :=
  fun rest hr => (takes_plain hp (.inl h)).append (hq rest hr)

end TableDraft.Script
