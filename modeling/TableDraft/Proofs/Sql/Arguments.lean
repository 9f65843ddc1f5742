import TableDraft.Proofs.Sql.ColumnDefinition
import TableDraft.Proofs.Text.Case

namespace TableDraft.Sql
open TableDraft.Text

variable {s head args tail : List Char}

/-- What stands between the first opening and the last closing parenthesis. -/
def argumentList? (s : List Char) : Option (List Char) :=
  match s.dropWhile (· != '(') with
  | [] => none
  | _ :: rest =>
    match rest.reverse.dropWhile (· != ')') with
    | [] => none
    | _ :: r => some r.reverse

theorem takeWhile_ne_append {q : Char} {s : List Char} (h : q ∉ s) (t : List Char) :
    (s ++ q :: t).takeWhile (· != q) = s := by
  have hs : ∀ c ∈ s, (c != q) = true := fun c hc => bne_iff_ne.2 fun he => h (he ▸ hc)
  rw [List.takeWhile_append_of_pos hs, List.takeWhile_cons_of_neg (by simp), List.append_nil]

theorem dropWhile_ne_append {q : Char} {s : List Char} (h : q ∉ s) (t : List Char) :
    (s ++ q :: t).dropWhile (· != q) = q :: t := by
  have hs : ∀ c ∈ s, (c != q) = true := fun c hc => bne_iff_ne.2 fun he => h (he ▸ hc)
  rw [List.dropWhile_append_of_pos hs, List.dropWhile_cons_of_neg (by simp)]

/-- A text that has the character is split before the first one. -/
theorem exists_append_of_dropWhile_ne {q c : Char} {s r : List Char}
    (h : s.dropWhile (· != q) = c :: r) : ∃ t, s = t ++ q :: r ∧ q ∉ t := by
  refine ⟨s.takeWhile (· != q), ?_, fun hq => ?_⟩
  · have hc : c = q := by simpa [h] using List.head?_dropWhile_not (· != q) s
    rw [← hc, ← h, hc, List.takeWhile_append_dropWhile]
  · simpa using List.mem_takeWhile_imp hq

theorem argumentList?_eq_some : argumentList? s = some args ↔
    ∃ head tail, s = head ++ '(' :: (args ++ ')' :: tail) ∧ '(' ∉ head ∧ ')' ∉ tail := by
  constructor
  · intro h
    unfold argumentList? at h
    split at h
    · cases h
    next hopen =>
      split at h
      · cases h
      next hclose =>
        cases h
        obtain ⟨head, rfl, hhead⟩ := exists_append_of_dropWhile_ne hopen
        obtain ⟨tail, htail, hnot⟩ := exists_append_of_dropWhile_ne hclose
        refine ⟨head, tail.reverse, ?_, hhead, fun hq => hnot (List.mem_reverse.1 hq)⟩
        rw [List.reverse_eq_iff.1 htail]
        simp
  · rintro ⟨head, tail, rfl, hhead, htail⟩
    have hreverse : (args ++ ')' :: tail).reverse = tail.reverse ++ ')' :: args.reverse := by
      simp
    have htail : ')' ∉ tail.reverse := fun hq => htail (List.mem_reverse.1 hq)
    simp only [argumentList?, dropWhile_ne_append hhead, hreverse, dropWhile_ne_append htail,
      List.reverse_reverse]

/-- Trimming takes nothing from between parentheses. -/
theorem trim_arguments : trim (head ++ '(' :: (args ++ ')' :: tail)) =
    trimLeft head ++ '(' :: (args ++ ')' :: trimRight tail) := by
  have hleft : trimLeft (head ++ '(' :: (args ++ ')' :: tail)) =
      (trimLeft head ++ '(' :: (args ++ [')'])) ++ tail := by
    have hopen : ('(' :: (args ++ ')' :: tail)).dropWhile isBlank = '(' :: (args ++ ')' :: tail) :=
      List.dropWhile_cons_of_neg (by decide)
    rw [trimLeft, List.dropWhile_append, hopen]
    split
    next h => simp [trimLeft, List.isEmpty_iff.1 h]
    next => simp [trimLeft]
  have hlast : ∀ c ∈ (trimLeft head ++ '(' :: (args ++ [')'])).getLast?, isBlank c = false := by
    intro c hc
    simp only [← List.cons_append, ← List.append_assoc, List.getLast?_concat, Option.mem_some_iff]
      at hc
    exact hc ▸ rfl
  rw [trim, hleft, trimRight_append tail hlast]
  simp

theorem not_mem_trimLeft {c : Char} (h : c ∉ s) : c ∉ trimLeft s :=
  fun hc => h ((List.dropWhile_suffix isBlank).subset hc)

theorem not_mem_trimRight {c : Char} (h : c ∉ s) : c ∉ trimRight s :=
  fun hc => h ((trimRight_isPrefix s).subset hc)

theorem argumentList?_trim (h : argumentList? s = some args) :
    argumentList? (trim s) = some args := by
  obtain ⟨head, tail, rfl, hhead, htail⟩ := argumentList?_eq_some.1 h
  rw [trim_arguments]
  exact argumentList?_eq_some.2 ⟨_, _, rfl, not_mem_trimLeft hhead, not_mem_trimRight htail⟩

/-- Capitals bring no parentheses with them. -/
theorem argumentList?_fullType {type : String} (h : argumentList? type.toList = some args) :
    argumentList? (fullType type).toList = some args := by
  obtain ⟨head, tail, htype, hhead, htail⟩ := argumentList?_eq_some.1 (argumentList?_trim h)
  have hreverse : (args ++ ')' :: tail).reverse = tail.reverse ++ ')' :: args.reverse := by
    simp
  have hclose : ')' ∉ tail.reverse := fun hq => htail (List.mem_reverse.1 hq)
  have hfull : (fullType type).toList = upper head ++ '(' :: (args ++ ')' :: upper tail) := by
    simp only [fullType, htype, takeWhile_ne_append hhead, dropWhile_ne_append hhead, hreverse,
      takeWhile_ne_append hclose, dropWhile_ne_append hclose, List.drop_one, List.tail_cons,
      List.reverse_reverse, String.toList_ofList]
  exact argumentList?_eq_some.2 ⟨_, _, hfull, fun hq => hhead (mem_of_mem_upper hq (by decide)),
    fun hq => htail (mem_of_mem_upper hq (by decide))⟩

theorem argumentList?_columnType {c : Column} (hlength : c.length = none)
    (h : argumentList? c.dataType.toList = some args) :
    argumentList? (columnType c).toList = some args := by
  simp only [columnType, hlength, lengthText, List.isEmpty_nil, Bool.true_or, if_true,
    String.toList_ofList]
  exact argumentList?_trim h

theorem toString_ne_empty (n : Int) : toString n ≠ "" := by
  cases n with
  | ofNat m => exact Nat.repr_ne_empty
  | negSucc m =>
    intro h
    have hsign : ("-" ++ Nat.repr (m + 1)).toList = "".toList := congrArg String.toList h
    rw [String.toList_append] at hsign
    cases hsign

theorem trim_of_numeric (h : ∀ c ∈ s, isNumeric c = true) : trim s = s := by
  have hvisible : ∀ c ∈ s, isBlank c = false := by
    intro c hc
    have hn := numeric_cases (h c hc)
    by_contra hb
    simp only [isBlank, Bool.not_eq_false, Bool.or_eq_true, Bool.and_eq_true, decide_eq_true_eq,
      beq_iff_eq] at hb
    omega
  exact trim_eq_self ⟨fun c hc => hvisible c (List.mem_of_mem_head? hc),
    fun c hc => hvisible c (List.mem_of_mem_getLast? hc)⟩

/-- A length is the list of a type that has no parenthesis of its own. -/
theorem argumentList?_columnType_length {c : Column} {n : Int} (hlength : c.length = some (.number n))
    (h : '(' ∉ c.dataType.toList) :
    argumentList? (columnType c).toList = some (toString n).toList := by
  have htext : lengthText c.length = (toString n).toList := by
    rw [hlength]
    exact trim_of_numeric (Mark.numeric_text n)
  have hne : (toString n).toList.isEmpty = false := by
    rw [List.isEmpty_eq_false_iff, ne_eq, String.toList_eq_nil_iff]
    exact toString_ne_empty n
  have htype : '(' ∉ trim c.dataType.toList := fun hq => h ((trim_isInfix _).subset hq)
  have hcontains : (trim c.dataType.toList).contains '(' = false := by
    simpa using htype
  refine argumentList?_eq_some.2 ⟨trim c.dataType.toList, [], ?_, htype, List.not_mem_nil⟩
  simp only [columnType, htext, hne, hcontains, Bool.or_false, Bool.false_eq_true, if_false,
    String.toList_ofList]

end TableDraft.Sql
