import TableDraft.Proofs.Text.Trim
import TableDraft.Sql.Ident

namespace TableDraft.Sql
open TableDraft.Text

/-- The last character, if there is one, is visible and no semicolon. -/
def EndsVisibly (s : List Char) : Prop :=
  ∀ c ∈ s.getLast?, isBlank c = false ∧ c ≠ ';'

theorem endsVisibly_iff (s : List Char) :
    EndsVisibly s ↔ (s.getLast?.all fun c => !isBlank c && c != ';') = true := by
  unfold EndsVisibly
  cases s.getLast? with
  | none => simp
  | some c => simp

instance (s : List Char) : Decidable (EndsVisibly s) :=
  decidable_of_iff' _ (endsVisibly_iff s)

theorem EndsVisibly.append {s t : List Char} (hs : EndsVisibly s) (ht : EndsVisibly t) :
    EndsVisibly (s ++ t) := by
  intro c hc
  rw [List.getLast?_append, Option.mem_def, Option.or_eq_some_iff] at hc
  exact hc.elim (ht c) fun h => hs c h.2

theorem EndsVisibly.behind {t : List Char} (s : List Char) (ht : EndsVisibly t) (hne : t ≠ []) :
    EndsVisibly (s ++ t) := by
  rwa [EndsVisibly, List.getLast?_append_of_ne_nil _ hne]

theorem endsVisibly_quoted {q : Char} (s : List Char) (hq : isBlank q = false ∧ q ≠ ';') :
    EndsVisibly (q :: (doubled q s ++ [q])) := by
  intro c hc
  rw [← List.cons_append, List.getLast?_concat, Option.mem_some_iff] at hc
  exact hc ▸ hq

theorem endsVisibly_quotedIdent (name : List Char) : EndsVisibly (quotedIdent name) :=
  endsVisibly_quoted (trim name) (by decide)

theorem getLast?_ne_semicolon {s : List Char} (h : EndsVisibly s) : s.getLast? ≠ some ';' :=
  fun e => (h ';' e).2 rfl

/-- A text without the semicolon at its end, if it has one. -/
def withoutEnd (s : List Char) : List Char :=
  if s.getLast? = some ';' then s.dropLast else s

theorem withoutEnd_eq_self {s : List Char} (h : EndsVisibly s) : withoutEnd s = s :=
  if_neg (getLast?_ne_semicolon h)

theorem withoutEnd_append {s : List Char} (h : EndsVisibly s) (t : List Char) :
    withoutEnd (s ++ t) = s ++ withoutEnd t := by
  by_cases ht : t = []
  · subst ht
    rw [List.append_nil, withoutEnd_eq_self h]
    exact (List.append_nil s).symm
  · unfold withoutEnd
    rw [List.getLast?_append_of_ne_nil _ ht, List.dropLast_append_of_ne_nil ht]
    split <;> rfl

theorem withoutEnd_isPrefix (s : List Char) : withoutEnd s <+: s := by
  unfold withoutEnd
  split
  · exact List.dropLast_prefix s
  · exact List.prefix_refl s

theorem toList_terminated {sql : String} (h : Trimmed sql.toList) :
    (terminated sql).toList = withoutEnd sql.toList ++ [';'] := by
  rw [terminated, String.toList_ofList, trim_eq_self h]
  rfl

theorem terminated_eq {sql : String} (ht : Trimmed sql.toList) (hv : EndsVisibly sql.toList) :
    terminated sql = sql ++ ";" := by
  rw [← String.toList_inj, toList_terminated ht, withoutEnd_eq_self hv, String.toList_append]
  rfl

/-- Terminating changes nothing up to a visible character that is no semicolon. -/
theorem terminated_append {sql : String} {s t : List Char} (h : sql.toList = s ++ t) (hne : s ≠ [])
    (hhead : ∀ c ∈ s.head?, isBlank c = false) (hv : EndsVisibly s) :
    ∃ r, (terminated sql).toList = s ++ r := by
  have hleft : trimLeft (s ++ t) = s ++ t := by
    refine trimLeft_eq_self fun c hc => hhead c ?_
    rwa [List.head?_append_of_ne_nil _ hne] at hc
  have htrim : trim sql.toList = s ++ trimRight t := by
    rw [h, trim, hleft, trimRight_append t fun c hc => (hv c hc).1]
  simp only [terminated, htrim, String.toList_ofList]
  split
  next hlast =>
    -- the semicolon taken off is behind `s`, which does not end in one
    have hr : trimRight t ≠ [] := by
      intro hnil
      rw [hnil, List.append_nil] at hlast
      exact getLast?_ne_semicolon hv hlast
    exact ⟨_, by rw [List.dropLast_append_of_ne_nil hr, List.append_assoc]⟩
  next => exact ⟨_, List.append_assoc s _ _⟩

/-- Terminating takes nothing from a statement that needs no trimming. -/
theorem isPrefix_terminated {sql : String} (h : Trimmed sql.toList) :
    sql.toList <+: (terminated sql).toList := by
  simp only [terminated, trim_eq_self h, String.toList_ofList]
  split
  next hlast => exact ⟨[], by rw [List.append_nil, List.dropLast_append_getLast? _ hlast]⟩
  next => exact List.prefix_append _ _

theorem trimmed_terminated {s : List Char} (hne : s ≠ [])
    (h : ∀ c ∈ s.head?, isBlank c = false) : Trimmed (s ++ [';']) := by
  refine trimmed_append hne (List.cons_ne_nil _ _) h fun c hc => ?_
  cases hc
  decide

theorem toList_unterminated {sql : String} {s : List Char} (h : sql.toList = s ++ [';'])
    (hne : s ≠ []) (hhead : ∀ c ∈ s.head?, isBlank c = false) :
    (unterminated sql).toList = trim s := by
  have htrim : trim sql.toList = s ++ [';'] := by
    rw [h, trim_eq_self (trimmed_terminated hne hhead)]
  rw [trim, trimLeft_eq_self hhead]
  simp only [unterminated, htrim, List.getLast?_concat, if_true, List.dropLast_concat,
    String.toList_ofList]

theorem unterminated_append {sql : String} (ht : Trimmed sql.toList) (hne : sql.toList ≠ []) :
    unterminated (sql ++ ";") = sql := by
  rw [← String.toList_inj, toList_unterminated String.toList_append hne ht.1, trim_eq_self ht]

theorem unterminated_eq_self {sql : String} (ht : Trimmed sql.toList)
    (hv : EndsVisibly sql.toList) : unterminated sql = sql := by
  simp [unterminated, trim_eq_self ht, getLast?_ne_semicolon hv]

end TableDraft.Sql
