namespace TableDraft.Text

def occurs (needle : List Char) : List Char → Bool
  | [] => needle.isEmpty
  | c :: r => needle.isPrefixOf (c :: r) || occurs needle r

theorem occurs_iff_isInfix {needle s : List Char} : occurs needle s = true ↔ needle <:+: s := by
  induction s with
  | nil => simp [occurs]
  | cons c r ih =>
    rw [occurs, Bool.or_eq_true, ih, List.isPrefixOf_iff_prefix, List.infix_cons_iff]

/-- Replaces every occurrence from left to right; `skip` characters are left of the one being
replaced. -/
def replaceFrom (needle other : List Char) : (skip : Nat) → List Char → List Char
  | _, [] => []
  | k + 1, _ :: r => replaceFrom needle other k r
  | 0, c :: r =>
    if needle.isPrefixOf (c :: r) then other ++ replaceFrom needle other (needle.length - 1) r
    else c :: replaceFrom needle other 0 r

/-- Replaces every occurrence of a text that is not empty. -/
def replaceAll (needle other s : List Char) : List Char :=
  replaceFrom needle other 0 s

end TableDraft.Text
