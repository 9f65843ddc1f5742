import TableDraft.LockRisk
import TableDraft.Proofs.Text.Trim

namespace TableDraft.Text

theorem words_append_blank {c : Char} (h : isBlank c = true) (s t : List Char) :
    words (s ++ c :: t) = words s ++ words t := by
  rw [words, List.splitOnP_append_cons s t h, List.filter_append]
  rfl

theorem words_ne_nil {s : List Char} {c : Char} (hc : c ∈ s) (hv : isBlank c = false) :
    words s ≠ [] := by
  induction s with
  | nil => cases hc
  | cons d r ih =>
    cases hd : isBlank d with
    | true =>
      have hne : c ≠ d := by
        rintro rfl
        rw [hv] at hd
        cases hd
      rw [← List.nil_append (d :: r), words_append_blank hd]
      exact List.append_ne_nil_of_right_ne_nil _ (ih ((List.mem_cons.1 hc).resolve_left hne))
    | false =>
      obtain ⟨w, ws, hw⟩ := List.exists_cons_of_ne_nil (List.splitOnP_ne_nil isBlank r)
      rw [words, List.splitOnP_cons_eq_if_modifyHead, hd, hw]
      exact List.cons_ne_nil (d :: w) _

/-- The words of a text with one space between them. -/
def spaced (s : List Char) : List Char :=
  [' '].intercalate (words s)

theorem intercalate_append {sep : List Char} {l m : List (List Char)} (hl : l ≠ []) (hm : m ≠ []) :
    sep.intercalate (l ++ m) = sep.intercalate l ++ (sep ++ sep.intercalate m) := by
  induction l with
  | nil => exact absurd rfl hl
  | cons w r ih =>
    rw [List.cons_append, List.intercalate_cons_of_ne_nil (List.append_ne_nil_of_right_ne_nil r hm)]
    cases r with
    | nil => simp
    | cons x r =>
      rw [ih (List.cons_ne_nil x r), List.intercalate_cons_cons]
      simp only [List.append_assoc]

theorem getLast?_intercalate {sep : List Char} (ls : List (List Char)) {l : List Char} (hl : l ≠ []) :
    (sep.intercalate (ls ++ [l])).getLast? = l.getLast? := by
  by_cases hls : ls = []
  · rw [hls, List.nil_append, List.intercalate_singleton]
  · rw [intercalate_append hls (List.cons_ne_nil _ _), List.intercalate_singleton,
      ← List.append_assoc, List.getLast?_append_of_ne_nil _ hl]

theorem spaced_append {s t : List Char} (hs : words s ≠ []) (ht : words t ≠ []) :
    spaced (s ++ ' ' :: t) = spaced s ++ ' ' :: spaced t := by
  rw [spaced, words_append_blank rfl, intercalate_append hs ht]
  rfl

end TableDraft.Text

namespace TableDraft.LockRisk
open TableDraft.Text

/-- Both sides of a space are put in normal form on their own, if each has a word. -/
theorem normalForm_append {statement : String} {s t : List Char}
    (h : statement.toList = s ++ ' ' :: t) (hs : words s ≠ []) (ht : words t ≠ []) :
    normalForm statement = upper (spaced s) ++ ' ' :: upper (spaced t) := by
  show upper (spaced statement.toList) = _
  rw [h, spaced_append hs ht, upper_append]
  rfl

end TableDraft.LockRisk
