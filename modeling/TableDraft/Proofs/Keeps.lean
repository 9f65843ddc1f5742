import TableDraft.Proofs.Checked

namespace TableDraft

/-- What `f` reads of the state is the same after the work as before it, also if the work fails. -/
def Keeps (f : σ → β) (m : ExceptT Failure (StateM σ) α) : Prop :=
  ∀ s, f (m s).2 = f s

/-- What `f` reads of the state is moved by the work as `r` tells, also if the work fails. -/
def Moves (f : σ → β) (r : β → β → Prop) (m : ExceptT Failure (StateM σ) α) : Prop :=
  ∀ s, r (f s) (f (m s).2)

variable {f : σ → β} {m : ExceptT Failure (StateM σ) α} {k : α → ExceptT Failure (StateM σ) α'}

theorem keeps_pure (a : α) : Keeps f (pure a) :=
  fun _ => rfl

theorem keeps_throw (e : Failure) : Keeps f (throw e : ExceptT Failure (StateM σ) α) :=
  fun _ => rfl

theorem keeps_get : Keeps f get :=
  fun _ => rfl

theorem Keeps.bind (hm : Keeps f m) (hk : ∀ a, Keeps f (k a)) : Keeps f (m >>= k) := by
  intro s
  have hs := hm s
  rw [bind_apply]
  cases hms : m s with
  | mk result t =>
    rw [hms] at hs
    cases result with
    | error e => exact hs
    | ok a => exact (hk a t).trans hs

/-- What is kept together is kept in its parts. -/
theorem Keeps.of_comp (h : Keeps f m) (g : β → γ) : Keeps (g ∘ f) m :=
  fun s => congrArg g (h s)

variable {r : β → β → Prop}

theorem Keeps.moves (h : Keeps f m) (hr : ∀ b, r b b) : Moves f r m := by
  intro s
  rw [h s]
  exact hr _

theorem Keeps.bind_moves (hm : Keeps f m) (hr : ∀ b, r b b) (hk : ∀ a, Moves f r (k a)) :
    Moves f r (m >>= k) := by
  intro s
  have hs := hm s
  rw [bind_apply]
  cases hms : m s with
  | mk result t =>
    rw [hms] at hs
    cases result with
    | error e => rw [hs]; exact hr _
    | ok a => rw [← hs]; exact hk a t

theorem bind_kept (hk : ∀ a, Keeps f (k a)) (s : σ) : f ((m >>= k) s).2 = f (m s).2 := by
  rw [bind_apply]
  cases m s with
  | mk result t =>
    cases result with
    | error e => rfl
    | ok a => exact hk a t

theorem Moves.bind_keeps (hm : Moves f r m) (hk : ∀ a, Keeps f (k a)) : Moves f r (m >>= k) := by
  intro s
  rw [bind_kept hk s]
  exact hm s

/-- Work after some that keeps `f` starts with what `f` reads, unless there was a failure. -/
theorem Keeps.bind_cases (hm : Keeps f m) (k : α → ExceptT Failure (StateM σ) α') (s : σ) :
    (∃ e t, m s = (.error e, t) ∧ (m >>= k) s = (.error e, t) ∧ f t = f s) ∨
      ∃ a t, m s = (.ok a, t) ∧ (m >>= k) s = k a t ∧ f t = f s := by
  have hs := hm s
  rw [bind_apply]
  cases hms : m s with
  | mk result t =>
    rw [hms] at hs
    cases result with
    | error e => exact .inl ⟨e, t, rfl, rfl, hs⟩
    | ok a => exact .inr ⟨a, t, rfl, rfl, hs⟩

end TableDraft
