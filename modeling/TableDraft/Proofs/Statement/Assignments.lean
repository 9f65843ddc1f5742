import TableDraft.Proofs.Script.Cuts
import TableDraft.Proofs.Sql.DefaultScan
import TableDraft.Proofs.Statement.Trigger

namespace TableDraft
open TableDraft.Sql TableDraft.Text TableDraft.Script

namespace Script

/-- The blocks open in a body behind the word `w`, unless it closes the body itself. The scan goes by
what the word reads like, not by what it stands for. -/
def openBehind? (depth : Nat) (w : List Char) : Option Nat :=
  if blockOpeners.contains (upper w) then some (depth + 1)
  else if upper w = "END".toList then if depth = 0 then none else some (depth - 1)
  else some depth

/-- Read as words of blocks, the words close the blocks that they open, and no other. -/
def Balanced (ws : List (List Char)) : Prop :=
  ws.foldlM openBehind? 0 = some 0

instance (ws : List (List Char)) : Decidable (Balanced ws) :=
  inferInstanceAs (Decidable (ws.foldlM openBehind? 0 = some 0))

theorem openBehind?_of_not_mem {w : List Char} (h : upper w ∉ blockWords) (depth : Nat) :
    openBehind? depth w = some depth := by
  simp only [blockWords, List.mem_cons, List.not_mem_nil, or_false, not_or] at h
  obtain ⟨hbegin, hcase, hend⟩ := h
  have hopener : ¬blockOpeners.contains (upper w) = true := by
    simp only [List.contains_iff_mem, blockOpeners, List.mem_cons, List.not_mem_nil, or_false,
      not_or]
    exact ⟨hbegin, hcase⟩
  rw [openBehind?, if_neg hopener, if_neg hend]

theorem balanced_of_not_mem {ws : List (List Char)} (h : ∀ w ∈ ws, upper w ∉ blockWords) :
    Balanced ws := by
  unfold Balanced
  induction ws with
  | nil => rfl
  | cons w ws ih =>
    obtain ⟨hw, hws⟩ := List.forall_mem_cons.1 h
    rw [List.foldlM_cons, openBehind?_of_not_mem hw]
    exact ih hws

/-- The body of a trigger is a block of its own, which a word may close. -/
theorem takes_openBehind {w rest : List Char} (hw : IsWord w = true) (hr : atWordEnd rest = true)
    (hb : startsTransaction rest = false) (ha : ClosesAlone rest) (depth : Nat) :
    Takes (depth + 1) w ((openBehind? depth w).elim 0 (· + 1)) rest := by
  by_cases hplain : upper w ∉ blockWords
  · rw [openBehind?_of_not_mem hplain]
    exact takes_word hw hr (wordLexeme_of_not_mem hplain (depth + 1) rest)
  unfold openBehind?
  simp only [blockWords, List.mem_cons, List.not_mem_nil, or_false, not_not] at hplain
  rcases hplain with hbegin | hcase | hend
  · rw [if_pos (by rw [hbegin]; decide)]
    exact takes_begin ⟨hw, hbegin, hr⟩ hb (depth + 1)
  · rw [if_pos (by rw [hcase]; decide)]
    exact takes_case ⟨hw, hcase, hr⟩ (depth + 1)
  · rw [if_neg (by rw [hend]; decide), if_pos hend]
    cases depth with
    | zero => exact takes_end ⟨hw, hend, hr⟩ ha 0
    | succ d => exact takes_end ⟨hw, hend, hr⟩ ha (d + 1)

/-- Gives a number to a column of the new row. Any word may be the name of the column, and any digits
the number. -/
structure Assignment where
  column : String
  value : String
  isWord : IsWord column.toList = true
  isNumber : allDigits value.toList = true

namespace Assignment

def clause (a : Assignment) : List Char :=
  "SET NEW.".toList ++ (a.column.toList ++ (" = ".toList ++ a.value.toList))

def text (a : Assignment) : List Char :=
  a.clause ++ [';']

theorem takes_clause (a : Assignment) (depth : Nat) (rest : List Char) :
    Takes (depth + 1) a.clause ((openBehind? depth a.column.toList).elim 0 (· + 1))
      (';' :: rest) := by
  have hrow : Body "SET NEW.".toList
      (a.column.toList ++ (" = ".toList ++ a.value.toList) ++ ';' :: rest) :=
    .word (w := "SET".toList) (by decide) (by rfl) (by decide) <|
      .mark (by decide) (by decide) <|
      .word (w := "NEW".toList) (by decide) (by rfl) (by decide) <|
      .mark (by decide) (by decide) .done
  have hmarks : ∀ c ∈ " = ".toList ++ a.value.toList, isMark c = true :=
    List.forall_mem_append.2 ⟨List.all_eq_true.1 (by decide), fun c hc =>
      isMark_of_isDigit (isDigit_of_allDigits a.isNumber c hc)⟩
  refine (hrow.takes (Nat.succ_pos depth)).append (.append ?_ (takes_marks hmarks _ _))
  exact takes_openBehind a.isWord (by rfl) (by rfl) (closesAlone_iff.2 (by rfl)) depth

end Assignment

/-- The `END` behind assignments ends the body, unless the names of the columns have blocks open or
have closed the body before it. -/
theorem head?_fragments_assignments_iff (as : List Assignment) (depth : Nat) :
    (fragments (depth + 1) (as.flatMap Assignment.text ++ "\nEND".toList ++ [';'])).head? =
        some (as.flatMap Assignment.text ++ "\nEND".toList) ↔
      (as.map fun a => a.column.toList).foldlM openBehind? depth = some 0 := by
  induction as generalizing depth with
  | nil =>
    have hend : Takes (depth + 1) "\nEND".toList depth [';'] :=
      (takes_mark _ (by decide) (by decide) (.inl (by decide))).append
        (takes_end ⟨by decide, by decide, by rfl⟩ (by decide) depth)
    have := hend.head?_iff (t := [])
    rw [List.append_nil] at this
    rw [List.flatMap_nil, List.nil_append, this]
    cases depth with
    | zero => simp [fragments_semicolon]
    | succ d =>
      have hinside : fragments (d + 1) [';'] = [[';']] := by
        have := takes_mark [] (c := ';') (by decide) (by decide) (.inr (Nat.succ_pos d))
        rw [Takes, List.append_nil] at this
        rw [this, fragments]
        rfl
      rw [hinside]
      simp
  | cons a as ih =>
    have htext : ∀ t, (a :: as).flatMap Assignment.text ++ t =
        a.clause ++ ';' :: (as.flatMap Assignment.text ++ t) := by
      simp [Assignment.text]
    rw [htext, List.append_assoc, List.cons_append, (a.takes_clause depth _).head?_iff,
      List.map_cons, List.foldlM_cons]
    cases hopen : openBehind? depth a.column.toList with
    | none => simp [fragments_semicolon]
    | some d =>
      have hmark : Takes (d + 1) [';'] (d + 1)
          (as.flatMap Assignment.text ++ "\nEND".toList ++ [';']) :=
        takes_mark _ (by decide) (by decide) (.inr (Nat.succ_pos d))
      exact (hmark.head?_iff (t := as.flatMap Assignment.text ++ "\nEND".toList)).trans (ih d)

end Script

namespace Statement

variable {table : String} {g : Trigger}

theorem trim_assignments (as : List Assignment) :
    trim (as.flatMap Assignment.text) = as.flatMap Assignment.text := by
  refine trim_eq_self ⟨?_, ?_⟩
  · cases as with
    | nil => exact fun _ => nofun
    | cons a as =>
      rintro c hc
      obtain rfl : c = 'S' := (Option.some_inj.1 hc).symm
      decide
  · rcases List.eq_nil_or_concat as with rfl | ⟨bs, b, rfl⟩
    · exact fun _ => nofun
    · rw [List.concat_eq_append, List.flatMap_append, List.flatMap_singleton, Assignment.text,
        ← List.append_assoc, List.getLast?_concat]
      rintro c hc
      cases hc
      decide

theorem takes_triggerOpening (htiming : uppered g.timing ∈ Definition.triggerTimings)
    (hevent : uppered g.event ∈ Definition.triggerEvents) {rest : List Char}
    (hrest : startsTransaction rest = false) :
    Takes 0 (triggerHead table g ++ ("BEGIN".toList ++ ['\n'])) 1 rest := by
  have hbegin : Takes 0 "BEGIN".toList 1 (['\n'] ++ rest) := by
    refine takes_begin ⟨by decide, by decide, by rfl⟩ ?_ 0
    rw [List.singleton_append, startsTransaction_cons rest (by decide), hrest]
  exact (takes_triggerHead htiming hevent _).append
    (hbegin.append (takes_mark rest (by decide) (by decide) (.inl (by decide))))

/-- A trigger that assigns to columns is closed exactly if the names of these are balanced. -/
theorem closed_assignments_iff {as : List Assignment}
    (hbody : g.body.toList = as.flatMap Assignment.text)
    (htiming : uppered g.timing ∈ Definition.triggerTimings)
    (hevent : uppered g.event ∈ Definition.triggerEvents) :
    Closed (createTrigger table g).draftText.toList ↔
      Balanced (as.map fun a => a.column.toList) := by
  have hstart :
      startsTransaction (as.flatMap Assignment.text ++ "\nEND".toList ++ [';']) = false := by
    cases as with
    | nil => decide
    | cons a as => rfl
  have htext : ∀ t, (createTrigger table g).draftText.toList ++ t =
      triggerHead table g ++ ("BEGIN".toList ++ ['\n']) ++
        (as.flatMap Assignment.text ++ "\nEND".toList ++ t) := by
    have hend : "\nEND".toList = '\n' :: "END".toList := by
      decide
    rw [toList_createTrigger, hbody, trim_assignments, hend]
    simp
  have hdraft := htext []
  rw [List.append_nil, List.append_nil] at hdraft
  rw [closed_iff_head?, htext, hdraft, (takes_triggerOpening htiming hevent hstart).head?_iff]
  exact head?_fragments_assignments_iff as 0

/-- A trigger that assigns numbers to columns is one statement of its script exactly if the names of
the columns are balanced where they are words of blocks, and the lines of the script stay as they are.
Names that are no words of blocks are balanced. -/
theorem split_assignments (table : String) (g : Trigger) (as : List Assignment)
    (hbody : g.body.toList = as.flatMap Assignment.text)
    (htiming : uppered g.timing ∈ Definition.triggerTimings)
    (hevent : uppered g.event ∈ Definition.triggerEvents) :
    let s := createTrigger table g
    s.text = s.draftText ++ ";" ∧
    (split s.text = [s.draftText] ↔ Balanced (as.map fun a => a.column.toList) ∧
      (∀ l ∈ lines s.text.toList, isComment l = false) ∧
      ∀ c ∈ s.draftText.toList, isLineBreak c = true → c = '\n') ∧
    ((∀ a ∈ as, upper a.column.toList ∉ blockWords) →
      Balanced (as.map fun a => a.column.toList)) := by
  intro s
  obtain ⟨hne, htrimmed, hends⟩ : s.draftText.toList ≠ [] ∧ Trimmed s.draftText.toList ∧
      EndsVisibly s.draftText.toList := trimmed_createTrigger
  have htext : s.text = s.draftText ++ ";" := terminated_eq htrimmed hends
  have hfirst : s.draftText.toList.head? = some 'C' := head?_createTrigger
  have hhead : ∀ c ∈ s.draftText.toList.head?, c ≠ ';' := by
    rw [hfirst]
    rintro c hc
    cases hc
    decide
  refine ⟨htext, ?_, fun h => balanced_of_not_mem (List.forall_mem_map.2 h)⟩
  rw [htext, split_terminated_iff hne htrimmed hhead, closed_assignments_iff hbody htiming hevent]

/-- A trigger that assigns to a column with the name of a word that opens a block, and to one with that
of the word that closes it. -/
def pairingTrigger : Trigger :=
  ⟨"g", "before", "insert", "SET NEW.begin = 1;SET NEW.End = 2;"⟩

theorem split_assignments_pair : split (createTrigger "t" pairingTrigger).text =
    [(createTrigger "t" pairingTrigger).draftText] := by
  have hcomment : ((lines (createTrigger "t" pairingTrigger).text.toList).all
      fun l => !isComment l) = true := by
    decide +kernel
  have hfeeds : ((createTrigger "t" pairingTrigger).draftText.toList.all
      fun c => !isLineBreak c || c == '\n') = true := by
    decide +kernel
  obtain ⟨-, hsplit, -⟩ := split_assignments "t" pairingTrigger
    [⟨"begin", "1", by decide, by decide⟩, ⟨"End", "2", by decide, by decide⟩] (by decide)
    (by decide +kernel) (by decide +kernel)
  refine hsplit.2 ⟨by decide, by simpa using hcomment, fun c hc hbreak => ?_⟩
  have := List.all_eq_true.1 hfeeds c hc
  simpa [hbreak] using this

/-- A column `end` closes the body, so that the semicolon behind its value ends the statement. -/
theorem split_assignments_end :
    split (createTrigger "t" ⟨"g", "before", "insert", "SET NEW.end = 1;"⟩).text =
      ["CREATE TRIGGER `g` BEFORE INSERT ON `t` FOR EACH ROW\nBEGIN\nSET NEW.end = 1", "END"] := by
  decide +kernel

end Statement

end TableDraft
