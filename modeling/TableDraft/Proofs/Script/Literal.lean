import TableDraft.Proofs.Script.Blocks
import TableDraft.Proofs.Script.Content
import TableDraft.Proofs.Script.Plain
import TableDraft.Proofs.Script.Relined

namespace TableDraft.Script
open TableDraft.Text TableDraft.Sql

/-- A text between quotes `q`, which stand twice inside it. -/
def quoted (q : Char) (v : String) : String :=
  String.ofList (q :: (doubled q v.toList ++ [q]))

theorem toList_quoted (q : Char) (v : String) :
    (quoted q v).toList = q :: (doubled q v.toList ++ [q]) :=
  String.toList_ofList

/-- All line breaks are line feeds, and behind none of them stands a comment. -/
structure Survives (s : List Char) : Prop where
  feeds : ∀ c ∈ s, isLineBreak c = true → c = '\n'
  noComment : ∀ l ∈ (lines s).tail, isComment l = false

theorem survives_iff (s : List Char) : Survives s ↔
    ((s.all fun c => !isLineBreak c || c == '\n') &&
      (lines s).tail.all fun l => !isComment l) = true := by
  simp only [Bool.and_eq_true, List.all_eq_true, Bool.or_eq_true, Bool.not_eq_true', beq_iff_eq]
  constructor
  · rintro ⟨hfeeds, hcomment⟩
    refine ⟨fun c hc => ?_, hcomment⟩
    cases hb : isLineBreak c with
    | false => exact .inl rfl
    | true => exact .inr (hfeeds c hc hb)
  · rintro ⟨hfeeds, hcomment⟩
    refine ⟨fun c hc hb => (hfeeds c hc).resolve_left ?_, hcomment⟩
    rw [hb]
    decide

instance (s : List Char) : Decidable (Survives s) :=
  decidable_of_iff' _ (survives_iff s)

/-- A line is a comment by what stands in front of a visible character that is no dash. -/
theorem isComment_append_cons {q : Char} (hb : isBlank q = false) (hq : q ≠ '-') (l r : List Char) :
    isComment (l ++ q :: r) = "--".toList.isPrefixOf (trimLeft l) := by
  have hleft : trimLeft (l ++ q :: r) = trimLeft l ++ q :: r := by
    unfold trimLeft
    rw [List.dropWhile_append]
    cases h : l.dropWhile isBlank with
    | nil => exact List.dropWhile_cons_of_neg (by simp [hb])
    | cons c t => rfl
  have hright : trimRight (trimLeft l ++ q :: r) = trimLeft l ++ q :: trimRight r := by
    have hlast : ∀ c ∈ (trimLeft l ++ [q]).getLast?, isBlank c = false := by
      rw [List.getLast?_concat]
      exact fun c hc => by cases hc; exact hb
    have h := trimRight_append r hlast
    rwa [List.append_assoc, List.append_assoc] at h
  have hdash : '-' ≠ q := hq.symm
  rw [isComment, trim, hleft, hright]
  cases trimLeft l with
  | nil => simp [List.isPrefixOf, hdash]
  | cons c t =>
    cases t with
    | nil => simp [List.isPrefixOf, hdash]
    | cons d t => simp [List.isPrefixOf]

/-- A script that ends in a line gives the statements its characters make exactly if it has no comment
lines and the line breaks in its statements are line feeds. -/
theorem statementsOf_body_iff {script : List Char} (h : EndsInLine script) :
    statementsOf (body script) = statementsOf script ↔
      (∀ l ∈ lines script, isComment l = false) ∧ ∀ t ∈ statementsOf script, relined t = t := by
  have hfixed : (statementsOf script).map relined = statementsOf script ↔
      ∀ t ∈ statementsOf script, relined t = t := by
    rw [← List.map_inj_left (g := fun t => t), List.map_id']
  constructor
  · intro hbody
    -- the dashes of a comment line would be missing from the statements
    have hcomment : ∀ l ∈ lines script, isComment l = false := by
      refine isComment_of_count ?_
      rw [← count_statementsOf (by decide) (by decide), hbody,
        count_statementsOf (by decide) (by decide)]
    rw [body_eq_relined h hcomment, statementsOf_relined] at hbody
    exact ⟨hcomment, hfixed.1 hbody⟩
  · rintro ⟨hcomment, hrelined⟩
    rw [body_eq_relined h hcomment, statementsOf_relined]
    exact hfixed.2 hrelined

section
variable {q : Char} {s p r : List Char} (hq : isQuote q = true)
include hq

theorem isLineBreak_of_isQuote : isLineBreak q = false :=
  isLineBreak_of_not_blank (isBlank_of_isQuote hq)

/-- Only behind a line break in the quoted text can a comment begin. -/
theorem forall_isComment_lines (hp : Unbroken ('S' :: p)) (hr : Unbroken r) :
    (∀ l ∈ lines ('S' :: p ++ (s ++ q :: r)), isComment l = false) ↔
      ∀ l ∈ (lines (s ++ [q])).tail, isComment l = false := by
  have hblank := isBlank_of_isQuote hq
  have hdash : q ≠ '-' := by
    rintro rfl
    exact absurd hq (by decide)
  have hfirst : ∀ t, isComment ('S' :: t) = false := fun t =>
    isComment_append_cons (by decide) (by decide) [] t
  have hline : Unbroken [q] := List.forall_mem_singleton.2 (isLineBreak_of_isQuote hq)
  obtain ⟨ls, l, hlines⟩ := exists_lines_append s
  have hrest := hlines (q :: r) (List.forall_mem_cons.2 ⟨hline q List.mem_cons_self, hr⟩)
    (List.cons_ne_nil q r)
  have hquote := hlines [q] hline (List.cons_ne_nil q [])
  have hlast : isComment (l ++ q :: r) = isComment (l ++ [q]) := by
    rw [isComment_append_cons hblank hdash, isComment_append_cons hblank hdash]
  cases ls with
  | nil =>
    rw [lines_append_of_cons hp hrest, hquote]
    simpa using hfirst (p ++ (l ++ q :: r))
  | cons k ks =>
    rw [lines_append_of_cons hp hrest, hquote]
    simp only [List.append_eq, List.forall_mem_cons, List.cons_append, List.tail_cons,
      List.forall_mem_append, hlast, hfirst, true_and]

end

theorem statementsOf_literal {q : Char} {s : List Char} (hq : isQuote q = true) (hs : Closes q s) :
    statementsOf ("SELECT ".toList ++ q :: s ++ "; SELECT 2".toList) =
      ["SELECT ".toList ++ q :: s, "SELECT 2".toList] := by
  have hselect : Plain "SELECT ".toList ∧ endsInWord "SELECT ".toList = false := by
    decide +kernel
  have hsecond : statementsOf " SELECT 2".toList = ["SELECT 2".toList] := by
    decide +kernel
  have hwhole : Whole (q :: s) := fun rest hr => takes_literal 0 hq hs (ne_quote_of_atBreak hr hq)
  have hclosed : Closed ("SELECT ".toList ++ q :: s) :=
    (hwhole.after_plain hselect.1 hselect.2).closed
  have htrimmed : Trimmed ("SELECT ".toList ++ q :: s) := by
    obtain ⟨t, rfl⟩ : ∃ t, s = t ++ [q] := List.getLast?_eq_some_iff.1 (getLast?_of_closes hs)
    refine ⟨fun c hc => by cases hc; decide, fun c hc => ?_⟩
    rw [← List.cons_append, ← List.append_assoc, List.getLast?_concat] at hc
    cases hc
    exact isBlank_of_isQuote hq
  have h := statementsOf_closed hclosed htrimmed (List.cons_ne_nil _ _) " SELECT 2".toList
  rw [hsecond] at h
  exact h

/-- A literal in a statement, with another statement behind it, stays as it is exactly if it
survives. -/
theorem statementsOf_literal_iff {q : Char} {s : List Char} (hq : isQuote q = true)
    (hs : Closes q s) :
    statementsOf (body ("SELECT ".toList ++ q :: s ++ "; SELECT 2".toList)) =
        ["SELECT ".toList ++ q :: s, "SELECT 2".toList] ↔ Survives (q :: s) := by
  have hlines : Unbroken "SELECT ".toList ∧ Unbroken "; SELECT 2".toList := by
    decide
  have hstatements := statementsOf_literal hq hs
  obtain ⟨t, rfl⟩ : ∃ t, s = t ++ [q] := List.getLast?_eq_some_iff.1 (getLast?_of_closes hs)
  have hends : EndsInLine ("SELECT ".toList ++ q :: (t ++ [q]) ++ "; SELECT 2".toList) := by
    intro c hc
    rw [List.getLast?_append_of_ne_nil _ (by decide)] at hc
    exact hlines.2 c (List.mem_of_getLast? hc)
  have hcomment := forall_isComment_lines hq (s := q :: t) hlines.1 hlines.2
  have hassoc : "SELECT ".toList ++ q :: (t ++ [q]) ++ "; SELECT 2".toList =
      "SELECT ".toList ++ (q :: t ++ q :: "; SELECT 2".toList) := by
    simp only [List.append_assoc, List.cons_append, List.nil_append]
  have hfeeds : relined ("SELECT ".toList ++ q :: (t ++ [q])) = "SELECT ".toList ++ q :: (t ++ [q]) ↔
      ∀ c ∈ q :: (t ++ [q]), isLineBreak c = true → c = '\n' := by
    rw [relined_eq_self_iff, List.forall_mem_append]
    refine and_iff_right fun c hc hb => ?_
    rw [hlines.1 c hc] at hb
    cases hb
  rw [← hstatements, statementsOf_body_iff hends, hstatements, hassoc]
  refine (and_congr hcomment ?_).trans ⟨fun h => ⟨h.2, h.1⟩, fun h => ⟨h.noComment, h.feeds⟩⟩
  rw [List.forall_mem_cons, hfeeds, List.forall_mem_singleton]
  exact and_iff_left (by decide)

/-- Quoted texts stay as they are if and only if they survive. The lines of a script are put together,
and its comments left out, before the scan finds its quotes. -/
theorem split_quoted_iff {q : Char} (v : String) (hq : isQuote q = true)
    (hv : q = backQuote ∨ '\\' ∉ v.toList) :
    split ("SELECT " ++ quoted q v ++ "; SELECT 2") = ["SELECT " ++ quoted q v, "SELECT 2"] ↔
      Survives (quoted q v).toList := by
  have htext : ("SELECT " ++ quoted q v).toList =
      "SELECT ".toList ++ q :: (doubled q v.toList ++ [q]) := by
    rw [String.toList_append, toList_quoted]
  have hparts : ["SELECT " ++ quoted q v, "SELECT 2"] =
      ["SELECT ".toList ++ q :: (doubled q v.toList ++ [q]), "SELECT 2".toList].map String.ofList := by
    rw [← htext, List.map_cons, List.map_singleton, String.ofList_toList, String.ofList_toList]
  have hliteral := statementsOf_literal_iff hq (closes_doubled hv)
  rw [hparts, split, List.map_inj_right fun _ _ => String.ofList_inj.1, String.toList_append, htext,
    hliteral, toList_quoted]

/-- Semicolons, words that open blocks and line feeds stay in a name. -/
theorem split_quoted_name :
    (isQuote backQuote = true ∧ (backQuote = backQuote ∨ '\\' ∉ "a;\n`BEGIN -- \\".toList)) ∧
      split "SELECT `a;\n``BEGIN -- \\`; SELECT 2" = ["SELECT `a;\n``BEGIN -- \\`", "SELECT 2"] :=
  ⟨⟨rfl, .inl rfl⟩, (split_quoted_iff "a;\n`BEGIN -- \\" rfl (.inl rfl)).2 (by decide)⟩

/-- A line of this literal is left out as a comment, with all that stands behind it. -/
theorem split_quoted_comment :
    split ("SELECT " ++ quoted apostrophe "a\n-- b" ++ "; SELECT 2") = ["SELECT 'a"] := by
  decide +kernel

end TableDraft.Script
