import TableDraft.Proofs.Command.Quiet

namespace TableDraft
open TableDraft.Text

theorem unifyBreaks_eq_self {s : List Char} (h : '\r' ∉ s) : unifyBreaks s = s := by
  induction s with
  | nil => rfl
  | cons c r ih =>
    rw [List.mem_cons, not_or] at h
    rw [unifyBreaks, if_neg (Ne.symm h.1), ih h.2]
    rintro _ rfl
    exact absurd rfl h.1

/-- A text without carriage returns is read as it is written. -/
theorem readable_eq_self {s : String} (h : '\r' ∉ s.toList) : readable s = s := by
  rw [readable, unifyBreaks_eq_self h, String.ofList_toList]

theorem Path.Spot.holds_name (s : Path.Spot) : s.holds s.name = false := by
  rw [holds, Bool.eq_false_iff]
  intro h
  have hlength := (List.isPrefixOf_iff_prefix.1 h).length_le
  rw [List.length_append, List.length_singleton] at hlength
  omega

namespace Workspace

variable {w : Workspace} {name : String}

theorem names_setFile (w : Workspace) (name text : String) :
    (w.setFile name text).files.map Prod.fst =
      if w.files.any (·.1 == name) then w.files.map Prod.fst else w.files.map Prod.fst ++ [name] := by
  unfold setFile
  dsimp only
  split
  · rw [List.map_map]
    refine List.map_congr_left fun f _ => ?_
    show (if f.1 == name then (name, text) else f).1 = f.1
    split
    next hf => exact (eq_of_beq hf).symm
    · rfl
  · rw [List.map_append]
    rfl

/-- A new file makes directories of what holds it, and of nothing else. -/
theorem hasDirectory_setFile (w : Workspace) (name text : String) (s : Path.Spot) :
    (w.setFile name text).hasDirectory s = (w.hasDirectory s || s.holds name) := by
  show (s.isAncestor || (commonDirectories ++ w.directories).contains s.name ||
    ((w.setFile name text).files.map Prod.fst ++ w.directories).any s.holds) = _
  rw [names_setFile, hasDirectory]
  split
  next hold =>
    obtain ⟨f, hf, hname⟩ := List.any_eq_true.1 hold
    cases hholds : s.holds name with
    | false => rw [Bool.or_false]
    | true =>
      have hany : (w.files.map Prod.fst ++ w.directories).any s.holds = true := by
        refine List.any_eq_true.2 ⟨f.1, List.mem_append_left _ (List.mem_map_of_mem hf), ?_⟩
        rwa [eq_of_beq hname]
      rw [hany, Bool.or_true, Bool.or_true]
  · cases hholds : s.holds name <;> simp [hholds]

theorem lookup_map_set {files : List (String × String)} (h : files.any (·.1 == name) = true)
    (text : String) :
    (files.map fun f => if f.1 == name then (name, text) else f).lookup name = some text := by
  induction files with
  | nil => cases h
  | cons f r ih =>
    rw [List.map_cons, List.lookup_cons]
    cases hf : f.1 == name with
    | true => simp
    | false =>
      rw [List.any_cons, hf, Bool.false_or] at h
      have hne : (name == f.1) = false := by
        rw [beq_eq_false_iff_ne] at hf ⊢
        exact Ne.symm hf
      simp only [Bool.false_eq_true, if_false, hne]
      exact ih h

theorem file?_setFile (w : Workspace) (text : String) (h : name ≠ nullFile) :
    (w.setFile name text).file? name = some text := by
  rw [file?, if_neg h, setFile]
  dsimp only
  split
  next hold => exact lookup_map_set hold text
  next hnew =>
    have hnone : w.files.lookup name = none := by
      rw [List.lookup_eq_none_iff]
      intro f hf
      rw [bne_iff_ne]
      rintro rfl
      exact hnew (List.any_eq_true.2 ⟨f, hf, beq_self_eq_true f.1⟩)
    rw [List.lookup_append, hnone, List.lookup_cons_self]
    rfl

theorem lookup_map_set_of_ne {other : String} (h : other ≠ name) (text : String)
    (files : List (String × String)) :
    (files.map fun f => if f.1 == name then (name, text) else f).lookup other =
      files.lookup other := by
  induction files with
  | nil => rfl
  | cons f r ih =>
    rw [List.map_cons, List.lookup_cons, List.lookup_cons, ih]
    by_cases hf : f.1 = name
    · rw [if_pos (beq_iff_eq.2 hf), beq_eq_false_iff_ne.2 h, hf, beq_eq_false_iff_ne.2 h]
    · rw [if_neg fun hb => hf (beq_iff_eq.1 hb)]

theorem file?_setFile_of_ne {other : String} (w : Workspace) (h : other ≠ name) (text : String) :
    (w.setFile name text).file? other = w.file? other := by
  have hfiles : (w.setFile name text).files.lookup other = w.files.lookup other := by
    rw [setFile]
    dsimp only
    split
    · exact lookup_map_set_of_ne h text w.files
    · rw [List.lookup_append, List.lookup_cons, beq_eq_false_iff_ne.2 h]
      exact Option.or_none
  rw [file?, file?, hfiles]

theorem file?_congr {v w : Workspace} (h : v.files = w.files) (name : String) :
    v.file? name = w.file? name := by
  rw [file?, file?, h]

theorem file?_of_set {v w : Workspace} {text : String} (h : v.files = (w.setFile name text).files)
    (hname : name ≠ nullFile) : v.file? name = some text :=
  (file?_congr h name).trans (w.file?_setFile text hname)

theorem file?_of_set_of_ne {v w : Workspace} {other text : String}
    (h : v.files = (w.setFile name text).files) (hother : other ≠ name) :
    v.file? other = w.file? other :=
  (file?_congr h other).trans (w.file?_setFile_of_ne hother text)

theorem walk_setFile {s : Path.Spot} {parts : List String} (hname : name ≠ nullFile)
    (h : (w.walk s parts).LeadsTo name) (text : String) :
    (w.setFile name text).walk s parts = .file name text := by
  induction parts generalizing s with
  | nil =>
    obtain ⟨old, h⟩ | h := h <;> cases h
  | cons part rest ih =>
    rw [walk] at h ⊢
    split at h
    · obtain ⟨old, h⟩ | h := h <;> cases h
    next hshort =>
      rw [if_neg hshort]
      dsimp only at h ⊢
      rw [hasDirectory_setFile]
      split at h
      next hdirectory =>
        rw [hdirectory, Bool.true_or, if_pos rfl]
        exact ih h
      next hfile =>
        -- the last part, whose name is the one that is set
        have hlast : rest.isEmpty = true ∧ (s.step part).name = name := by
          cases hrest : rest.isEmpty with
          | false =>
            rw [hrest] at h
            split at h <;> obtain ⟨old, h⟩ | h := h <;> cases h
          | true =>
            rw [hrest] at h
            refine ⟨rfl, ?_⟩
            split at h <;> obtain ⟨old, h⟩ | h := h <;> cases h <;> rfl
        obtain ⟨hrest, rfl⟩ := hlast
        rw [Bool.eq_false_iff.2 hfile, Path.Spot.holds_name, Bool.or_false,
          if_neg Bool.false_ne_true, file?_setFile w text hname]
        dsimp only
        rw [if_pos hrest]

theorem place_setFile {path : String} (hname : name ≠ nullFile) (h : (w.place path).LeadsTo name)
    (text : String) : (w.setFile name text).place path = .file name text := by
  unfold place at h ⊢
  split at h
  · obtain ⟨old, h⟩ | h := h <;> cases h
  next hnul =>
    split at h
    · obtain ⟨old, h⟩ | h := h <;> cases h
    next hlength =>
      rw [if_neg hnul, if_neg hlength]
      exact walk_setFile hname h text

end Workspace

theorem Command.definitionFile_setFile {w : Workspace} {path name : String} (hname : name ≠ nullFile)
    (h : (w.place path).LeadsTo name) (text : String) :
    definitionFile (w.setFile name text) path = .ok (readable text) := by
  unfold definitionFile
  rw [Workspace.place_setFile hname h]

end TableDraft
