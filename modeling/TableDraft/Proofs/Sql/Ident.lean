import TableDraft.Proofs.Text.Trim
import TableDraft.Sql.Ident

namespace TableDraft.Sql
open TableDraft.Text

/-- Reads on behind an opening back quote: the name, and what follows the back quote that closes it. Two
of them are one of the name. -/
def closeIdent? : List Char → Option (List Char × List Char)
  | [] => none
  | [c] => if c = backQuote then some ([], []) else none
  | c :: d :: r =>
    if c = backQuote then
      if d = backQuote then (closeIdent? r).map fun p => (backQuote :: p.1, p.2)
      else some ([], d :: r)
    else (closeIdent? (d :: r)).map fun p => (c :: p.1, p.2)

def readIdent? : List Char → Option (List Char × List Char)
  | [] => none
  | c :: r => if c = backQuote then closeIdent? r else none

/-- No back quote begins the text, so none before it can be one of two. -/
def StartsUnquoted (s : List Char) : Prop :=
  ∀ c ∈ s.head?, c ≠ backQuote

theorem closeIdent?_cons {c : Char} (hc : c ≠ backQuote) (r : List Char) :
    closeIdent? (c :: r) = (closeIdent? r).map fun p => (c :: p.1, p.2) := by
  cases r with
  | nil => simp [closeIdent?, hc]
  | cons d r => rw [closeIdent?, if_neg hc]

theorem closeIdent?_doubled {rest : List Char} (h : StartsUnquoted rest) (name : List Char) :
    closeIdent? (doubled backQuote name ++ backQuote :: rest) = some (name, rest) := by
  induction name with
  | nil =>
    cases rest with
    | nil => rfl
    | cons d r =>
      have hd : d ≠ backQuote := h d rfl
      rw [doubled_nil, List.nil_append, closeIdent?, if_pos rfl, if_neg hd]
  | cons c name ih =>
    rw [doubled_cons]
    by_cases hc : c = backQuote
    · rw [if_pos hc, hc]
      show closeIdent? (backQuote :: backQuote :: (doubled backQuote name ++ backQuote :: rest)) = _
      rw [closeIdent?, if_pos rfl, if_pos rfl, ih]
      rfl
    · rw [if_neg hc]
      show closeIdent? (c :: (doubled backQuote name ++ backQuote :: rest)) = _
      rw [closeIdent?_cons hc, ih]
      rfl

theorem eq_doubled_of_closeIdent? {s name rest : List Char}
    (h : closeIdent? s = some (name, rest)) :
    s = doubled backQuote name ++ backQuote :: rest ∧ StartsUnquoted rest := by
  fun_induction closeIdent? s generalizing name rest with
  | case1 => cases h
  | case2 =>
    cases h
    exact ⟨rfl, nofun⟩
  | case3 => cases h
  | case4 r ih =>
    obtain ⟨p, hp, hpair⟩ := Option.map_eq_some_iff.1 h
    cases hpair
    obtain ⟨hr, hrest⟩ := ih hp
    rw [doubled_cons, if_pos rfl, hr]
    exact ⟨rfl, hrest⟩
  | case5 d r hd =>
    cases h
    refine ⟨rfl, fun c hc => ?_⟩
    cases hc
    exact hd
  | case6 c d r hc ih =>
    obtain ⟨p, hp, hpair⟩ := Option.map_eq_some_iff.1 h
    cases hpair
    obtain ⟨hr, hrest⟩ := ih hp
    rw [doubled_cons, if_neg hc, hr]
    exact ⟨rfl, hrest⟩

/-- What is read is what was written, and no other text reads so. -/
theorem readIdent?_eq_some_iff {s name rest : List Char} : readIdent? s = some (name, rest) ↔
    s = backQuote :: (doubled backQuote name ++ backQuote :: rest) ∧ StartsUnquoted rest := by
  constructor
  · intro h
    unfold readIdent? at h
    split at h
    · cases h
    · split at h
      next hc =>
        obtain ⟨hr, hrest⟩ := eq_doubled_of_closeIdent? h
        rw [hc, hr]
        exact ⟨rfl, hrest⟩
      · cases h
  · rintro ⟨rfl, hrest⟩
    rw [readIdent?, if_pos rfl, closeIdent?_doubled hrest]

theorem readIdent?_quotedIdent {rest : List Char} (h : StartsUnquoted rest) (name : List Char) :
    readIdent? (quotedIdent name ++ rest) = some (trim name, rest) := by
  rw [readIdent?_eq_some_iff, quotedIdent]
  simp [h]

/-- Quoted names in front of other texts are the same only if the names are, but for blanks. -/
theorem quotedIdent_append_inj {x y r t : List Char} (hr : StartsUnquoted r)
    (ht : StartsUnquoted t) : quotedIdent x ++ r = quotedIdent y ++ t ↔ trim x = trim y ∧ r = t := by
  constructor
  · intro h
    have hread := readIdent?_quotedIdent hr x
    rw [h, readIdent?_quotedIdent ht y, Option.some_inj, Prod.mk.injEq] at hread
    exact ⟨hread.1.symm, hread.2.symm⟩
  · rintro ⟨hname, rfl⟩
    rw [quotedIdent, quotedIdent, hname]

theorem ident_inj {x y : String} : ident x = ident y ↔ trimmed x = trimmed y := by
  have h := quotedIdent_append_inj (x := x.toList) (y := y.toList) (r := []) (t := []) nofun nofun
  rw [List.append_nil, List.append_nil, and_iff_left rfl] at h
  rw [← String.toList_inj, ← String.toList_inj, toList_ident, toList_ident, toList_trimmed,
    toList_trimmed, h]

end TableDraft.Sql
