import TableDraft.Proofs.Script.Words
import TableDraft.Proofs.Text.Trim

namespace TableDraft.Script
open TableDraft.Text

/-- The words that open a block for the scan. The other words that `END` goes together with are
read like any word where they open something. -/
def blockOpeners : List (List Char) :=
  ["BEGIN".toList, "CASE".toList]

/-- What ends a block that the word `k` has opened, in front of `rest`: `END` alone, or `END` and
behind it `k` again. -/
inductive Ends (k : List Char) : List Char → List Char → Prop
  | alone {e rest : List Char} (hk : k ∈ blockOpeners) (he : Keyword "END".toList e rest)
    (ha : ClosesAlone rest) : Ends k e rest
  | named {e gap v rest : List Char} (hk : k ∈ closingWords)
    (he : Keyword "END".toList e (gap ++ (v ++ rest))) (hv : Trails gap v rest)
    (hw : upper v = k) : Ends k (e ++ (gap ++ v)) rest

/-- The word `k`, written `o`, opens a block around `s`, and `z` ends it in front of `rest`. -/
structure Block (k o s z rest : List Char) : Prop where
  opens : Keyword k o (s ++ (z ++ rest))
  noTransaction : k = "BEGIN".toList → startsTransaction (s ++ z) = false
  ends : Ends k z rest

/-- A text in front of `rest` that is made of quoted texts, words, blocks, and any other characters.
A word ends where no word goes on; what is in front of it may be a digit. -/
inductive Body : List Char → List Char → Prop
  | done {rest : List Char} : Body [] rest
  | literal {q : Char} {s t rest : List Char} (hq : isQuote q = true) (hs : Closes q s)
    (hr : ∀ c ∈ (t ++ rest).head?, c ≠ q) (h : Body t rest) : Body (q :: (s ++ t)) rest
  | word {w t rest : List Char} (hw : IsWord w = true) (hr : atWordEnd (t ++ rest) = true)
    (hk : upper w ∉ blockWords) (h : Body t rest) : Body (w ++ t) rest
  | mark {c : Char} {t rest : List Char} (hc : isQuote c = false) (hw : startsWord c = false)
    (h : Body t rest) : Body (c :: t) rest
  | block {k o s z t rest : List Char} (hb : Block k o s z (t ++ rest))
    (hs : Body s (z ++ (t ++ rest))) (h : Body t rest) : Body (o ++ (s ++ (z ++ t))) rest

/-- The blocks that the scan counts behind the word `k` that opens one. -/
def opened (k : List Char) (depth : Nat) : Nat :=
  if k ∈ blockOpeners then depth + 1 else depth

theorem opened_flow {k : List Char} (h : k ∈ flowWords) (depth : Nat) :
    opened k depth = depth := by
  have hflow : ∀ j ∈ flowWords, j ∉ blockOpeners := by
    decide
  exact if_neg (hflow k h)

theorem Ends.opener {k z rest : List Char} (h : Ends k z rest) :
    k ∈ blockOpeners ∨ k ∈ flowWords := by
  cases h with
  | alone hk => exact .inl hk
  | named hk =>
    rcases List.mem_cons.1 hk with rfl | hflow
    · exact .inl (by decide)
    · exact .inr hflow

theorem Ends.atWordEnd {k z rest : List Char} (h : Ends k z rest) : atWordEnd rest = true := by
  cases h with
  | alone _ he => exact he.ends
  | named _ _ hv => exact hv.ends

theorem Block.takes_opening {k o s z rest : List Char} (h : Block k o s z rest) (depth : Nat) :
    Takes depth o (opened k depth) (s ++ (z ++ rest)) := by
  rcases h.ends.opener with hopener | hflow
  · rw [opened, if_pos hopener]
    simp only [blockOpeners, List.mem_cons, List.not_mem_nil, or_false] at hopener
    rcases hopener with rfl | rfl
    · refine takes_begin h.opens ?_ depth
      rw [← List.append_assoc]
      exact startsTransaction_append (h.noTransaction rfl) h.ends.atWordEnd
    · exact takes_case h.opens depth
  · have hplain : ∀ j ∈ flowWords, j ∉ blockWords := by
      decide
    rw [opened_flow hflow]
    refine takes_word h.opens.isWord h.opens.ends (wordLexeme_of_not_mem ?_ depth _)
    rw [h.opens.capitals]
    exact hplain k hflow

theorem Ends.takes {k z rest : List Char} (h : Ends k z rest) {depth : Nat}
    (hd : 0 < opened k depth) : Takes (opened k depth) z depth rest := by
  cases h with
  | alone hk he ha =>
    rw [opened, if_pos hk]
    exact takes_end he ha depth
  | named hk he hv hw =>
    rcases List.mem_cons.1 hk with rfl | hflow
    · exact takes_end_case he hv hw depth
    · rw [opened_flow hflow] at hd ⊢
      exact takes_end_flow he hv (hw ▸ hflow) hd

/-- A block leaves as many blocks open as there were before it, if what stands in it does. -/
theorem Block.takes {k o s z rest : List Char} (h : Block k o s z rest) {depth : Nat}
    (hd : 0 < opened k depth)
    (hs : Takes (opened k depth) s (opened k depth) (z ++ rest)) :
    Takes depth (o ++ (s ++ z)) depth rest := by
  refine Takes.append ?_ (hs.append (h.ends.takes hd))
  rw [List.append_assoc]
  exact h.takes_opening depth

/-- Inside a block a body is taken whole. -/
theorem Body.takes {s rest : List Char} (h : Body s rest) {depth : Nat} (hd : 0 < depth) :
    Takes depth s depth rest := by
  -- by what the body is made of; in a block of it the scan counts one block more
  induction h generalizing depth with
  | done => exact takes_nil depth _
  | literal hq hs hr _ ih => exact (takes_literal depth hq hs hr).append (ih hd)
  | word hw hr hk _ ih =>
    exact (takes_word hw hr (wordLexeme_of_not_mem hk depth _)).append (ih hd)
  | mark hc hw _ ih => exact (takes_mark _ hw hc (.inr hd)).append (ih hd)
  | @block k o s z t rest hb _ _ ihs iht =>
    have hopened : 0 < opened k depth := by
      unfold opened
      split <;> omega
    have := (hb.takes hopened (ihs hopened)).append (iht hd)
    rwa [List.append_assoc, List.append_assoc] at this

theorem isBlank_of_isWord_append {w t s : List Char} {c : Char} (hw : IsWord w = true)
    (h : c :: s = w ++ t) : isBlank c = false := by
  match w with
  | d :: r =>
    obtain ⟨rfl, -⟩ := List.cons.inj h
    exact isBlank_of_isWordChar (isWordChar_of_isWord hw c List.mem_cons_self)

theorem Body.of_cons {c : Char} {s rest : List Char} (h : Body (c :: s) rest)
    (hc : isBlank c = true) : Body s rest := by
  generalize hx : c :: s = x at h
  cases h with
  | done => cases hx
  | literal hq =>
    obtain ⟨rfl, -⟩ := List.cons.inj hx
    rw [isBlank_of_isQuote hq] at hc
    cases hc
  | word hw =>
    rw [isBlank_of_isWord_append hw hx] at hc
    cases hc
  | mark _ _ h =>
    obtain ⟨-, rfl⟩ := List.cons.inj hx
    exact h
  | block hb =>
    rw [isBlank_of_isWord_append hb.opens.isWord hx] at hc
    cases hc

theorem Body.trimLeft {s rest : List Char} (h : Body s rest) : Body (trimLeft s) rest := by
  induction s with
  | nil => exact h
  | cons c s ih =>
    cases hc : isBlank c with
    | true =>
      rw [Text.trimLeft, List.dropWhile_cons_of_pos hc]
      exact ih (h.of_cons hc)
    | false =>
      rw [Text.trimLeft, List.dropWhile_cons_of_neg (by simp [hc])]
      exact h

theorem getLast?_of_closes {q : Char} {s : List Char} (h : Closes q s) : s.getLast? = some q := by
  induction h with
  | quote => rfl
  | escaped _ _ ih | doubled _ ih | plain _ _ _ ih => simp [List.getLast?_cons, ih]

theorem getLast?_of_isWord {w : List Char} (h : IsWord w = true) :
    ∀ c ∈ w.getLast?, isBlank c = false := fun c hc =>
  isBlank_of_isWordChar (isWordChar_of_isWord h c (List.mem_of_getLast? hc))

theorem Ends.getLast? {k z rest : List Char} (h : Ends k z rest) :
    z ≠ [] ∧ ∀ c ∈ z.getLast?, isBlank c = false := by
  cases h with
  | alone _ he => exact ⟨ne_nil_of_isWord he.isWord, getLast?_of_isWord he.isWord⟩
  | @named e gap v _ _ _ hv _ =>
    have hne : gap ++ v ≠ [] := List.append_ne_nil_of_right_ne_nil gap hv.word_ne_nil
    refine ⟨List.append_ne_nil_of_right_ne_nil e hne, fun c hc => ?_⟩
    rw [List.getLast?_append_of_ne_nil _ hne, List.getLast?_append_of_ne_nil _ hv.word_ne_nil] at hc
    exact isBlank_of_isWordChar (hv.wordChars c (List.mem_of_getLast? hc))

/-- A blank at the end stands behind any part that ends visibly. -/
theorem exists_concat {p t s : List Char} {c : Char} (hc : isBlank c = true)
    (hp : p ≠ [] ∧ ∀ d ∈ p.getLast?, isBlank d = false) (h : s ++ [c] = p ++ t) :
    ∃ u, t = u ++ [c] ∧ s = p ++ u := by
  rcases List.eq_nil_or_concat t with rfl | ⟨u, d, rfl⟩
  · rw [List.append_nil] at h
    have hlast : p.getLast? = some c := by
      rw [← h, List.getLast?_concat]
    rw [hp.2 c hlast] at hc
    cases hc
  · rw [List.concat_eq_append, ← List.append_assoc] at h
    obtain ⟨rfl, hd⟩ := List.append_inj' h rfl
    obtain rfl := List.singleton_inj.1 hd
    exact ⟨u, List.concat_eq_append, rfl⟩

theorem Body.of_concat {s rest : List Char} {c : Char} (h : Body (s ++ [c]) rest)
    (hc : isBlank c = true) : Body s (c :: rest) := by
  have hassoc : ∀ u r : List Char, u ++ [c] ++ r = u ++ c :: r := fun u r => by
    rw [List.append_assoc, List.singleton_append]
  generalize hx : s ++ [c] = x at h
  -- every part but a single character ends visibly, so the blank stands behind it
  induction h generalizing s with
  | done => exact absurd hx (List.append_ne_nil_of_right_ne_nil s (List.cons_ne_nil c []))
  | @literal q s' t rest hq hs hr h ih =>
    have hvisible : q :: s' ≠ [] ∧ ∀ d ∈ (q :: s').getLast?, isBlank d = false := by
      refine ⟨List.cons_ne_nil q s', fun d hd => ?_⟩
      rw [List.getLast?_cons, getLast?_of_closes hs] at hd
      cases hd
      exact isBlank_of_isQuote hq
    obtain ⟨u, rfl, rfl⟩ := exists_concat hc hvisible hx
    rw [hassoc] at hr
    exact .literal hq hs hr (ih rfl)
  | word hw hr hk h ih =>
    obtain ⟨u, rfl, rfl⟩ := exists_concat hc ⟨ne_nil_of_isWord hw, getLast?_of_isWord hw⟩ hx
    rw [hassoc] at hr
    exact .word hw hr hk (ih rfl)
  | @mark d t rest hq hw h ih =>
    rcases List.eq_nil_or_concat t with rfl | ⟨u, e, rfl⟩
    · obtain ⟨rfl, -⟩ := List.append_inj' (hx.trans (List.nil_append [d]).symm) rfl
      exact .done
    · rw [List.concat_eq_append] at *
      have hx : s ++ [c] = (d :: u) ++ [e] := hx
      obtain ⟨rfl, he⟩ := List.append_inj' hx rfl
      obtain rfl := List.singleton_inj.1 he
      exact .mark hq hw (ih rfl)
  | @block k o s' z t rest hb hs h ihs iht =>
    have hz := hb.ends.getLast?
    have hne : s' ++ z ≠ [] := List.append_ne_nil_of_right_ne_nil s' hz.1
    have hvisible : o ++ (s' ++ z) ≠ [] ∧
        ∀ d ∈ (o ++ (s' ++ z)).getLast?, isBlank d = false := by
      refine ⟨List.append_ne_nil_of_right_ne_nil o hne, ?_⟩
      rw [List.getLast?_append_of_ne_nil _ hne, List.getLast?_append_of_ne_nil _ hz.1]
      exact hz.2
    rw [← List.append_assoc s', ← List.append_assoc o] at hx
    obtain ⟨u, rfl, rfl⟩ := exists_concat hc hvisible hx
    rw [hassoc] at hb hs
    rw [List.append_assoc, List.append_assoc]
    exact .block hb hs (iht rfl)

theorem Body.trimRight {s rest : List Char} (h : Body s rest) :
    ∃ r, (∀ c ∈ r, isBlank c = true) ∧ Body (trimRight s) (r ++ rest) := by
  induction s using List.reverseRecOn generalizing rest with
  | nil => exact ⟨[], List.forall_mem_nil _, h⟩
  | append_singleton s c ih =>
    cases hc : isBlank c with
    | true =>
      obtain ⟨r, hr, hbody⟩ := ih (h.of_concat hc)
      refine ⟨r ++ [c], ?_, ?_⟩
      · simp only [List.mem_append, List.mem_singleton]
        rintro d (hd | rfl)
        · exact hr d hd
        · exact hc
      · rw [List.append_assoc, List.singleton_append]
        have : Text.trimRight (s ++ [c]) = Text.trimRight s := List.rdropWhile_concat_pos _ _ _ hc
        rwa [this]
    | false =>
      refine ⟨[], List.forall_mem_nil _, ?_⟩
      have : Text.trimRight (s ++ [c]) = s ++ [c] :=
        List.rdropWhile_concat_neg _ _ _ (by simp [hc])
      rwa [this]

/-- What is a body in front of `rest` is one in front of `rest'` as well. -/
structure GivesWay (rest rest' : List Char) : Prop where
  ends : ∀ t, atWordEnd (t ++ rest) = true → atWordEnd (t ++ rest') = true
  unquoted : ∀ t q, isQuote q = true → (∀ c ∈ (t ++ rest).head?, c ≠ q) →
    ∀ c ∈ (t ++ rest').head?, c ≠ q
  alone : ∀ t, ClosesAlone (t ++ rest) → ClosesAlone (t ++ rest')

theorem GivesWay.append {rest rest' : List Char} (h : GivesWay rest rest') (p : List Char) :
    GivesWay (p ++ rest) (p ++ rest') := by
  constructor
  · intro t
    rw [← List.append_assoc, ← List.append_assoc]
    exact h.ends (t ++ p)
  · intro t
    rw [← List.append_assoc, ← List.append_assoc]
    exact h.unquoted (t ++ p)
  · intro t
    rw [← List.append_assoc, ← List.append_assoc]
    exact h.alone (t ++ p)

theorem Keyword.givesWay {k w rest rest' : List Char} (h : Keyword k w rest)
    (hr : GivesWay rest rest') : Keyword k w rest' :=
  ⟨h.isWord, h.capitals, hr.ends [] h.ends⟩

theorem Trails.givesWay {gap w rest rest' : List Char} (h : Trails gap w rest)
    (hr : GivesWay rest rest') : Trails gap w rest' :=
  { h with ends := hr.ends [] h.ends }

theorem Ends.givesWay {k z rest rest' : List Char} (h : Ends k z rest)
    (hr : GivesWay rest rest') : Ends k z rest' := by
  cases h with
  | alone hk he ha => exact .alone hk (he.givesWay hr) (hr.alone [] ha)
  | named hk he hv hw =>
    exact .named hk (he.givesWay ((hr.append _).append _)) (hv.givesWay hr) hw

theorem Body.givesWay {s rest rest' : List Char} (h : Body s rest) (hr : GivesWay rest rest') :
    Body s rest' := by
  induction h generalizing rest' with
  | done => exact .done
  | literal hq hs hn _ ih => exact .literal hq hs (hr.unquoted _ _ hq hn) (ih hr)
  | word hw he hk _ ih => exact .word hw (hr.ends _ he) hk (ih hr)
  | mark hc hw _ ih => exact .mark hc hw (ih hr)
  | @block k o s z t rest hb _ _ ihs iht =>
    have hback := hr.append t
    exact .block ⟨hb.opens.givesWay ((hback.append _).append _), hb.noTransaction,
      hb.ends.givesWay hback⟩ (ihs (hback.append _)) (iht hr)

theorem closesAlone_of_trails {gap w rest : List Char} (h : Trails gap w rest)
    (hw : upper w ∉ closingWords) : ClosesAlone (gap ++ (w ++ rest)) := by
  rw [closesAlone_iff, following?_of_trails h]
  simpa using hw

/-- Another text may stand behind a body if it begins no word and nothing quoted, and does not show
an `END` in front of it as the end of something else. -/
theorem givesWay_of_alone {rest rest' : List Char} (hrest : atWordEnd rest = true)
    (hbreak : atBreak rest' = true)
    (halone : ∀ b, (∀ c ∈ b, isBlank c = true) → ClosesAlone (b ++ rest')) :
    GivesWay rest rest' := by
  constructor
  · intro t ht
    cases t with
    | nil => exact atWordEnd_of_atBreak hbreak
    | cons c t => exact ht
  · intro t q hq ht
    cases t with
    | nil => exact ne_quote_of_atBreak hbreak hq
    | cons c t => exact ht
  · intro t ht gap w x heq htrails
    rcases List.append_eq_append_iff.1 heq with ⟨a, rfl, -⟩ | ⟨a, rfl, hx⟩
    · -- the blanks reach into the text behind the body
      exact halone t (fun c hc => htrails.blank c (List.mem_append_left a hc)) _ w x heq htrails
    · have hword : ∃ b, a = w ++ b ∧ x = b ++ rest' := by
        rcases List.append_eq_append_iff.1 hx with hb | ⟨b, rfl, hb⟩
        · exact hb
        · -- the word cannot go on into that text
          cases b with
          | nil => exact ⟨[], by simp, hb.symm⟩
          | cons c b =>
            have hc := htrails.wordChars c (List.mem_append_right a List.mem_cons_self)
            simp [hb, atBreak, hc] at hbreak
      obtain ⟨b, rfl, rfl⟩ := hword
      refine ht gap w (b ++ rest) (by simp) { htrails with ends := ?_ }
      cases b with
      | nil => exact hrest
      | cons c b => exact htrails.ends

/-- On lines of its own in a block, without the blanks around it, a body is taken whole. -/
theorem Body.takes_lines {s rest : List Char} (h : Body s []) {depth : Nat} (hd : 0 < depth)
    (hrest : atWordEnd rest = true) :
    Takes depth ('\n' :: (trim s ++ ['\n'])) depth ("END".toList ++ rest) := by
  have halone : ∀ b, (∀ c ∈ b, isBlank c = true) →
      ClosesAlone (b ++ '\n' :: ("END".toList ++ rest)) := by
    intro b hb
    have htrails : Trails (b ++ ['\n']) "END".toList rest := {
      gap_ne_nil := List.append_ne_nil_of_right_ne_nil b (List.cons_ne_nil '\n' [])
      blank := List.forall_mem_append.2 ⟨hb, List.forall_mem_singleton.2 (by decide)⟩
      word_ne_nil := List.cons_ne_nil _ _
      wordChars := List.all_eq_true.1 (by decide)
      ends := hrest }
    have := closesAlone_of_trails htrails (by decide)
    rwa [List.append_assoc, List.singleton_append] at this
  -- the blanks taken off its end give way to the line of the `END`
  obtain ⟨r, hr, hbody⟩ := h.trimLeft.trimRight
  have hblanks : atWordEnd (r ++ []) = true := by
    rw [List.append_nil, atWordEnd_iff]
    exact fun c hc => isWordChar_of_isBlank (hr c (List.mem_of_mem_head? hc))
  have hinside := (hbody.givesWay (givesWay_of_alone hblanks (by rfl) halone)).takes hd
  have hfeed : ∀ t, Takes depth ['\n'] depth t := fun t =>
    takes_mark t (by decide) (by decide) (.inl (by decide))
  rw [← List.singleton_append]
  exact (hfeed _).append (hinside.append (hfeed _))

end TableDraft.Script
