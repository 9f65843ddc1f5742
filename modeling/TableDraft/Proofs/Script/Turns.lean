import TableDraft.Proofs.Script.Content
import TableDraft.Proofs.Script.Relined

namespace TableDraft.Script
open TableDraft.Text TableDraft.Sql

/-- Where the scan stands: in which quotes, if in any, and in how many blocks. -/
structure Standing where
  quote : Option Char
  depth : Nat

/-- One turn of the scan: what it takes, what it leaves, and where it stands then. -/
structure Turn where
  taken : List Char
  rest : List Char
  standing : Standing

/-- Between quotes `q` an escaped character goes with its backslash, and of two quotes neither
closes. -/
def quotedTurn (q : Char) (depth : Nat) (c : Char) : List Char → Turn
  | [] => ⟨[c], [], if c = q then none else some q, depth⟩
  | d :: r =>
    if c = '\\' ∧ q ≠ backQuote then ⟨[c, d], r, some q, depth⟩
    else if c = q then
      if d = q then ⟨[c, d], r, some q, depth⟩ else ⟨[c], d :: r, none, depth⟩
    else ⟨[c], d :: r, some q, depth⟩

/-- The turn at the character `c` in front of `r`. -/
def turn (s : Standing) (c : Char) (r : List Char) : Turn :=
  match s.quote with
  | some q => quotedTurn q s.depth c r
  | none =>
    if isQuote c then ⟨[c], r, some c, s.depth⟩
    else
      let x := lexeme s.depth c r
      ⟨x.taken, x.rest, none, x.depth⟩

/-- From where it stands the scan passes the text `p` in front of `rest` in whole turns, and stands at
`after` then. -/
inductive Scans : Standing → List Char → Standing → List Char → Prop
  | stay {s : Standing} {rest : List Char} : Scans s [] s rest
  | next {s between after : Standing} {c : Char} {u p rest : List Char}
    (h : turn s c (u ++ p ++ rest) = ⟨c :: u, p ++ rest, between⟩)
    (hp : Scans between p after rest) : Scans s (c :: (u ++ p)) after rest

/-- The scan of `p`, a semicolon and `r` meets the semicolon outside quotes and blocks. -/
def Meets (p r : List Char) : Prop :=
  Scans ⟨none, 0⟩ p ⟨none, 0⟩ (';' :: r)

theorem quotedTurn_append (q : Char) (depth : Nat) (c : Char) (r : List Char) :
    ∃ u, (quotedTurn q depth c r).taken = c :: u ∧ u ++ (quotedTurn q depth c r).rest = r := by
  unfold quotedTurn
  split
  · exact ⟨[], rfl, rfl⟩
  next d r =>
    split
    · exact ⟨[d], rfl, rfl⟩
    split
    · split
      · exact ⟨[d], rfl, rfl⟩
      · exact ⟨[], rfl, rfl⟩
    · exact ⟨[], rfl, rfl⟩

/-- A turn takes the character it is at, and loses nothing. -/
theorem turn_append (s : Standing) (c : Char) (r : List Char) :
    ∃ u, (turn s c r).taken = c :: u ∧ u ++ (turn s c r).rest = r := by
  unfold turn
  split
  next q _ => exact quotedTurn_append q s.depth c r
  · split
    · exact ⟨[], rfl, rfl⟩
    · obtain ⟨u, hu⟩ := List.head?_eq_some_iff.1 (head?_lexeme s.depth c r)
      have happend := lexeme_append s.depth c r
      rw [hu] at happend
      exact ⟨u, hu, (List.cons.inj happend).2⟩

theorem scans_nil_iff {s after : Standing} {rest : List Char} :
    Scans s [] after rest ↔ s = after := by
  constructor
  · intro h
    cases h
    rfl
  · rintro rfl
    exact .stay

/-- The scan stays where it is, or makes the turn that the text calls for and goes on behind it. -/
theorem scans_iff {s after : Standing} {c : Char} {p r rest : List Char} (htext : p ++ rest = c :: r) :
    Scans s p after rest ↔ (p = [] ∧ s = after) ∨
      ∃ t, p = (turn s c r).taken ++ t ∧ t ++ rest = (turn s c r).rest ∧
        Scans (turn s c r).standing t after rest := by
  constructor
  · intro hscans
    cases hscans with
    | stay => exact .inl ⟨rfl, rfl⟩
    | @next _ between _ d u t _ hturn ht =>
      obtain ⟨rfl, rfl⟩ := List.cons.inj htext
      rw [List.append_eq, hturn]
      exact .inr ⟨t, rfl, rfl, ht⟩
  · rintro (⟨rfl, rfl⟩ | ⟨t, rfl, ht, hscans⟩)
    · exact .stay
    · obtain ⟨u, htaken, -⟩ := turn_append s c r
      rw [htaken] at htext ⊢
      have hr : u ++ t ++ rest = r := (List.cons.inj htext).2
      refine .next ?_ hscans
      rw [hr, ht, ← htaken]

/-- A literal is closed by this turn, or goes on behind it. -/
theorem literal_quotedTurn (q : Char) (depth : Nat) (c : Char) (r : List Char) :
    ((quotedTurn q depth c r).standing = ⟨none, depth⟩ ∧
      literal q (c :: r) = ((quotedTurn q depth c r).taken, (quotedTurn q depth c r).rest)) ∨
    ((quotedTurn q depth c r).standing = ⟨some q, depth⟩ ∧
      literal q (c :: r) =
        ((quotedTurn q depth c r).taken ++ (literal q (quotedTurn q depth c r).rest).1,
          (literal q (quotedTurn q depth c r).rest).2)) := by
  cases r with
  | nil => by_cases hc : c = q <;> simp [quotedTurn, literal, hc]
  | cons d r =>
    rw [quotedTurn, literal]
    split
    · exact .inr ⟨rfl, rfl⟩
    split
    · split
      · exact .inr ⟨rfl, rfl⟩
      · exact .inl ⟨rfl, rfl⟩
    · exact .inr ⟨rfl, rfl⟩

/-- Out of quotes the scan comes only behind the literal. -/
theorem scans_quoted_iff {q : Char} {depth after : Nat} {p rest text : List Char}
    (hrest : rest ≠ []) (htext : p ++ rest = text) :
    Scans ⟨some q, depth⟩ p ⟨none, after⟩ rest ↔ ∃ t, p = (literal q text).1 ++ t ∧
      t ++ rest = (literal q text).2 ∧ Scans ⟨none, depth⟩ t ⟨none, after⟩ rest := by
  induction hn : text.length using Nat.strongRecOn generalizing text p with
  | _ n ih =>
  cases text with
  | nil => exact absurd (List.append_eq_nil_iff.1 htext).2 hrest
  | cons c r =>
    have hturn : turn ⟨some q, depth⟩ c r = quotedTurn q depth c r := rfl
    have hshorter : (quotedTurn q depth c r).rest.length < n := by
      obtain ⟨u, -, happend⟩ := quotedTurn_append q depth c r
      have hlength := congrArg List.length happend
      simp only [List.length_append, List.length_cons] at hlength hn
      omega
    rw [scans_iff htext, hturn]
    rcases literal_quotedTurn q depth c r with ⟨hstanding, hlit⟩ | ⟨hstanding, hlit⟩
    · rw [hstanding, hlit]
      simp
    · rw [hstanding, hlit]
      constructor
      · rintro (⟨-, hsame⟩ | ⟨t, rfl, ht, hscans⟩)
        · cases hsame
        · obtain ⟨t', rfl, ht', hscans'⟩ := (ih _ hshorter ht rfl).1 hscans
          exact ⟨t', by simp, ht', hscans'⟩
      · rintro ⟨t, rfl, ht, hscans⟩
        have happend : (literal q (quotedTurn q depth c r).rest).1 ++ t ++ rest =
            (quotedTurn q depth c r).rest := by
          rw [List.append_assoc, ht, literal_append]
        exact .inr ⟨_, by simp, happend, (ih _ hshorter happend rfl).2 ⟨t, rfl, ht, hscans⟩⟩

/-- Outside quotes the scan goes on behind the lexeme it is at. -/
theorem scans_lexeme_iff {depth after : Nat} {c : Char} {p r rest : List Char} (hrest : rest ≠ [])
    (htext : p ++ rest = c :: r) :
    Scans ⟨none, depth⟩ p ⟨none, after⟩ rest ↔ (p = [] ∧ depth = after) ∨
      ∃ t, p = (lexeme depth c r).taken ++ t ∧ t ++ rest = (lexeme depth c r).rest ∧
        Scans ⟨none, (lexeme depth c r).depth⟩ t ⟨none, after⟩ rest := by
  rw [scans_iff htext]
  refine or_congr (by simp) ?_
  cases hq : isQuote c with
  | false => simp [turn, hq]
  | true =>
    have hturn : turn ⟨none, depth⟩ c r = ⟨[c], r, some c, depth⟩ := by
      simp [turn, hq]
    have hlexeme : lexeme depth c r = ⟨c :: (literal c r).1, (literal c r).2, depth⟩ := by
      simp [lexeme, hq]
    rw [hturn, hlexeme]
    constructor
    · rintro ⟨t, rfl, ht, hscans⟩
      obtain ⟨t', rfl, ht', hscans'⟩ := (scans_quoted_iff hrest ht).1 hscans
      exact ⟨t', rfl, ht', hscans'⟩
    · rintro ⟨t, rfl, ht, hscans⟩
      have happend : (literal c r).1 ++ t ++ rest = r := (List.cons.inj htext).2
      exact ⟨_, rfl, happend, (scans_quoted_iff hrest happend).2 ⟨t, rfl, ht, hscans⟩⟩

/-- Between two of the pieces `fs`, with a semicolon there, stand `p` in front and `r` behind. -/
def CutAt (fs : List (List Char)) (p r : List Char) : Prop :=
  ∃ before after, before ≠ [] ∧ after ≠ [] ∧ fs = before ++ after ∧ p = [';'].intercalate before ∧
    r = [';'].intercalate after

theorem not_cutAt_singleton (f p r : List Char) : ¬CutAt [f] p r := by
  rintro ⟨before, after, hbefore, hafter, hparts, -⟩
  rcases List.append_eq_singleton_iff.1 hparts.symm with h | h
  · exact hbefore h.1
  · exact hafter h.2

theorem cutAt_cons_iff {fs : List (List Char)} (hfs : fs ≠ []) (f p r : List Char) :
    CutAt (f :: fs) p r ↔ (p = f ∧ r = [';'].intercalate fs) ∨
      ∃ t, p = f ++ ';' :: t ∧ CutAt fs t r := by
  constructor
  · rintro ⟨before, after, hbefore, hafter, hparts, rfl, rfl⟩
    obtain ⟨g, gs, rfl⟩ := List.exists_cons_of_ne_nil hbefore
    obtain ⟨rfl, rfl⟩ := List.cons.inj hparts
    by_cases hgs : gs = []
    · subst hgs
      exact .inl ⟨List.intercalate_singleton, rfl⟩
    · refine .inr ⟨_, ?_, gs, after, hgs, hafter, rfl, rfl, rfl⟩
      rw [List.intercalate_cons_of_ne_nil hgs, List.append_assoc]
      rfl
  · rintro (⟨rfl, rfl⟩ | ⟨t, rfl, before, after, hbefore, hafter, rfl, rfl, rfl⟩)
    · exact ⟨[p], fs, List.cons_ne_nil _ _, hfs, rfl, List.intercalate_singleton.symm, rfl⟩
    · refine ⟨f :: before, after, List.cons_ne_nil _ _, hafter, rfl, ?_, rfl⟩
      rw [List.intercalate_cons_of_ne_nil hbefore, List.append_assoc]
      rfl

theorem cutAt_onFirst_iff {fs : List (List Char)} (hfs : fs ≠ []) (s p r : List Char) :
    CutAt (onFirst s fs) p r ↔ ∃ t, p = s ++ t ∧ CutAt fs t r := by
  obtain ⟨f, gs, rfl⟩ := List.exists_cons_of_ne_nil hfs
  rw [onFirst]
  by_cases hgs : gs = []
  · subst hgs
    simp [not_cutAt_singleton]
  · simp only [cutAt_cons_iff hgs]
    constructor
    · rintro (⟨rfl, hr⟩ | ⟨t, rfl, ht⟩)
      · exact ⟨f, rfl, .inl ⟨rfl, hr⟩⟩
      · exact ⟨f ++ ';' :: t, by rw [List.append_assoc], .inr ⟨t, rfl, ht⟩⟩
    · rintro ⟨-, rfl, ⟨rfl, hr⟩ | ⟨t, rfl, ht⟩⟩
      · exact .inl ⟨rfl, hr⟩
      · exact .inr ⟨t, by rw [List.append_assoc], ht⟩

/-- A text is cut at the semicolons to which the scan comes outside quotes and blocks. -/
theorem scans_iff_cutAt {depth : Nat} {p r text : List Char} (htext : p ++ ';' :: r = text) :
    Scans ⟨none, depth⟩ p ⟨none, 0⟩ (';' :: r) ↔ CutAt (fragments depth text) p r := by
  have hrest : ';' :: r ≠ [] := List.cons_ne_nil _ _
  fun_induction fragments depth text generalizing p with
  | case1 => exact absurd (List.append_eq_nil_iff.1 htext).2 hrest
  | case2 depth c s hcut ih =>
    obtain ⟨rfl, rfl⟩ := hcut
    have hlexeme : lexeme 0 ';' s = ⟨[';'], s, 0⟩ := lexeme_mark (by decide) (by decide) 0 s
    rw [scans_lexeme_iff hrest htext, cutAt_cons_iff (fragments_ne_nil 0 s), intercalate_fragments,
      hlexeme]
    refine or_congr ⟨?_, ?_⟩ (exists_congr fun t => and_congr_right ?_)
    · rintro ⟨rfl, -⟩
      exact ⟨rfl, (List.cons.inj htext).2⟩
    · rintro ⟨rfl, -⟩
      exact ⟨rfl, rfl⟩
    · rintro rfl
      have ht : t ++ ';' :: r = s := (List.cons.inj htext).2
      exact (and_iff_right ht).trans (ih ht)
  | case3 depth c s hn x =>
    rename_i ih
    have hnot : ¬(p = [] ∧ depth = 0) := by
      rintro ⟨rfl, hdepth⟩
      exact hn ⟨(List.cons.inj htext).1.symm, hdepth⟩
    rw [scans_lexeme_iff hrest htext, cutAt_onFirst_iff (fragments_ne_nil x.depth x.rest),
      or_iff_right hnot]
    refine exists_congr fun t => and_congr_right ?_
    rintro rfl
    have ht : t ++ ';' :: r = x.rest := by
      have happend := lexeme_append depth c s
      rw [← htext, List.append_assoc] at happend
      exact (List.append_cancel_left happend).symm
    exact (and_iff_right ht).trans (ih ht)

theorem append_of_cutAt {fs : List (List Char)} {p r : List Char} (h : CutAt fs p r) :
    p ++ ';' :: r = [';'].intercalate fs := by
  obtain ⟨before, after, hbefore, hafter, rfl, rfl, rfl⟩ := h
  rw [intercalate_append hbefore hafter, List.singleton_append]

/-- A script is split at the semicolons that the scan of its body meets outside quotes and blocks, and
nowhere else. Its statements are the pieces, trimmed, without the empty ones. -/
theorem split_conserves (script : String) : ∃ fs : List (List Char),
    fs ≠ [] ∧
    body script.toList = [';'].intercalate fs ∧
    split script = ((fs.map trim).filter fun f => !f.isEmpty).map String.ofList ∧
    ∀ p r, CutAt fs p r ↔ p ++ ';' :: r = body script.toList ∧ Meets p r := by
  have htext := intercalate_fragments 0 (body script.toList)
  refine ⟨fragments 0 (body script.toList), fragments_ne_nil 0 _, htext.symm, rfl, fun p r => ?_⟩
  constructor
  · intro hcut
    have happend := (append_of_cutAt hcut).trans htext
    exact ⟨happend, (scans_iff_cutAt happend).2 hcut⟩
  · rintro ⟨happend, hmeets⟩
    exact (scans_iff_cutAt happend).1 hmeets

end TableDraft.Script
