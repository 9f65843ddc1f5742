import TableDraft.Value

namespace TableDraft.Fields

/-- The object with the changes put into it one after the other. -/
abbrev putAll (fields changes : Fields) : Fields :=
  changes.foldl (fun fields f => fields.put f.1 f.2) fields

theorem mem_put {fields : Fields} {name : String} {v : Value} {f : String × Value} :
    f ∈ fields.put name v ↔ (f ∈ fields ∧ f.1 ≠ name) ∨ f = (name, v) := by
  unfold put
  split
  next hold =>
    obtain ⟨g, hg, hn⟩ := List.any_eq_true.1 hold
    constructor
    · intro h
      obtain ⟨e, he, rfl⟩ := List.mem_map.1 h
      by_cases hen : e.1 = name
      · simp [hen]
      · simp [hen, he]
    · rintro (⟨h, hne⟩ | rfl)
      · exact List.mem_map.2 ⟨f, h, if_neg hne⟩
      · exact List.mem_map.2 ⟨g, hg, if_pos (eq_of_beq hn)⟩
  next hnew =>
    have hne : ∀ g ∈ fields, g.1 ≠ name := by
      intro g hg hn
      exact hnew (List.any_eq_true.2 ⟨g, hg, beq_iff_eq.2 hn⟩)
    rw [List.mem_append, List.mem_singleton]
    exact or_congr_left ⟨fun h => ⟨h, hne f h⟩, And.left⟩

theorem mem_of_get? {fields : Fields} {name : String} {v : Value} (h : fields.get? name = some v) :
    (name, v) ∈ fields := by
  obtain ⟨before, after, hsplit, -⟩ := List.lookup_eq_some_iff.1 h
  rw [hsplit]
  exact List.mem_append_right before List.mem_cons_self

theorem ne_of_get?_eq_none {fields : Fields} {name : String} (h : fields.get? name = none)
    {f : String × Value} (hf : f ∈ fields) : f.1 ≠ name := by
  induction fields with
  | nil => cases hf
  | cons g r ih =>
    rw [get?, List.lookup_cons] at h
    split at h
    · cases h
    next hn =>
      rcases List.mem_cons.1 hf with rfl | hf
      · exact (ne_of_beq_false hn).symm
      · exact ih h hf

theorem get?_putAll_of_ne {changes : Fields} {name : String} (h : ∀ f ∈ changes, f.1 ≠ name)
    (fields : Fields) : (fields.putAll changes).get? name = fields.get? name := by
  induction changes generalizing fields with
  | nil => rfl
  | cons f r ih =>
    have hf := h f List.mem_cons_self
    rw [putAll, List.foldl_cons, ih fun g hg => h g (List.mem_cons_of_mem f hg),
      get?_put_of_ne fields f.2 hf.symm]

/-- The last change of a name is the one that counts. -/
theorem get?_putAll_of_mem {changes : Fields} {name : String} {v : Value}
    (h : ∀ f ∈ changes, f.1 = name → f.2 = v) (hmem : (name, v) ∈ changes) (fields : Fields) :
    (fields.putAll changes).get? name = some v := by
  induction changes generalizing fields with
  | nil => cases hmem
  | cons f r ih =>
    have hr : ∀ g ∈ r, g.1 = name → g.2 = v := fun g hg => h g (List.mem_cons_of_mem f hg)
    by_cases hlater : (name, v) ∈ r
    · exact ih hr hlater (fields.put f.1 f.2)
    · -- the first change is then the last one of the name
      have hf : (name, v) = f := (List.mem_cons.1 hmem).resolve_right hlater
      subst hf
      have hne : ∀ g ∈ r, g.1 ≠ name := by
        intro g hg hn
        have hv := hr g hg hn
        apply hlater
        rwa [← hn, ← hv]
      rw [putAll, List.foldl_cons, get?_putAll_of_ne hne, get?_put_self]

end TableDraft.Fields
