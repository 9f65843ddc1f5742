import TableDraft.Failure

namespace TableDraft

instance decidableEqExcept [DecidableEq ε] [DecidableEq α] : DecidableEq (Except ε α)
  | .ok a, .ok b => decidable_of_iff (a = b) ⟨congrArg Except.ok, Except.ok.inj⟩
  | .error e, .error f => decidable_of_iff (e = f) ⟨congrArg Except.error, Except.error.inj⟩
  | .ok _, .error _ => isFalse nofun
  | .error _, .ok _ => isFalse nofun

theorem bind_eq_ok {x : Except Failure α} {f : α → Except Failure β} {b : β} :
    x >>= f = .ok b ↔ ∃ a, x = .ok a ∧ f a = .ok b := by
  cases x with
  | error e => exact iff_of_false nofun fun ⟨_, h, _⟩ => nomatch h
  | ok a => exact ⟨fun h => ⟨a, rfl, h⟩, fun ⟨_, rfl, h⟩ => h⟩

theorem bind_apply (m : ExceptT Failure (StateM σ) α) (k : α → ExceptT Failure (StateM σ) β)
    (s : σ) : (m >>= k) s = match m s with
      | (.ok a, t) => k a t
      | (.error f, t) => (.error f, t) := by
  show ExceptT.bind m k s = _
  simp only [ExceptT.bind, ExceptT.mk, bind, StateT.bind]
  cases m s with
  | mk result t => cases result <;> rfl

theorem get_bind (k : σ → ExceptT Failure (StateM σ) α) (s : σ) : (get >>= k) s = k s s := rfl

theorem bind_apply_eq_ok {m : ExceptT Failure (StateM σ) α} {k : α → ExceptT Failure (StateM σ) β}
    {s t : σ} {b : β} :
    (m >>= k) s = (.ok b, t) ↔ ∃ a u, m s = (.ok a, u) ∧ k a u = (.ok b, t) := by
  rw [bind_apply]
  cases m s with
  | mk result u =>
    cases result with
    | error f => exact iff_of_false nofun fun ⟨_, _, h, _⟩ => nomatch h
    | ok a => exact ⟨fun h => ⟨a, u, rfl, h⟩, fun ⟨_, _, h, hk⟩ => by cases h; exact hk⟩

namespace Checked

theorem map_eq_good {f : α → β} {a : Checked α} {b : β} :
    f <$> a = good b ↔ ∃ x, a = good x ∧ f x = b := by
  cases a with
  | good x => simp
  | bad e => exact iff_of_false nofun fun ⟨_, h, _⟩ => nomatch h

theorem seq_eq_good {f : Checked (α → β)} {a : Checked α} {b : β} :
    f <*> a = good b ↔ ∃ g x, f = good g ∧ a = good x ∧ g x = b := by
  cases f with
  | good g =>
    cases a with
    | good x => simp
    | bad e => exact iff_of_false nofun fun ⟨_, _, _, h, _⟩ => nomatch h
  | bad e =>
    refine iff_of_false (fun h => ?_) fun ⟨_, _, h, _⟩ => nomatch h
    cases a <;> cases h

theorem within_eq_good {step : PathStep} {a : Checked α} {x : α} :
    a.within step = good x ↔ a = good x := by
  cases a <;> simp [within]

theorem orFail_eq_ok {e : Entity} {a : Checked α} {x : α} :
    a.orFail e = .ok x ↔ a = good x := by
  cases a <;> simp [orFail]

end Checked

theorem checkText_eq_good {v : Value} {s : String} : checkText v = .good s ↔ v = .text s := by
  cases v <;> simp [checkText, Checked.fault]

theorem checkOptionalText_eq_good {v : Value} {s : Option String} :
    checkOptional checkText v = .good s ↔ v = Value.ofText? s := by
  cases v <;> cases s <;> simp [checkOptional, checkText, Checked.fault, Value.ofText?, Checked.map]

theorem good_of_checkOptional {check : Value → Checked α} {v : Value} {a : α}
    (h : checkOptional check v = .good (some a)) : check v = .good a := by
  cases v with
  | null => cases h
  | _ =>
    obtain ⟨b, hb, hsome⟩ := Checked.map_eq_good.1 h
    rw [hb, Option.some.inj hsome]

namespace Fields

theorem required_eq_good {fields : Fields} {name : String} {check : Value → Checked α} {a : α} :
    fields.required name check = .good a ↔ ∃ v, fields.get? name = some v ∧ check v = .good a := by
  rw [required, Checked.within_eq_good]
  cases fields.get? name with
  | none => simp [Checked.fault]
  | some v => simp

theorem requiredText_eq_good {fields : Fields} {name s : String} :
    fields.required name checkText = .good s ↔ fields.get? name = some (.text s) := by
  simp [required_eq_good, checkText_eq_good]

theorem orElse_eq_good {fields : Fields} {name : String} {d : α} {check : Value → Checked α}
    {a : α} : fields.orElse name d check = .good a ↔
      (∃ v, fields.get? name = some v ∧ check v = .good a) ∨
        (fields.get? name = none ∧ d = a) := by
  rw [orElse]
  cases fields.get? name with
  | none => simp
  | some v => simp [Checked.within_eq_good]

theorem orElse_of_some {fields : Fields} {name : String} {d : α} {check : Value → Checked α} {a : α}
    {v : Value} (hv : fields.get? name = some v) :
    fields.orElse name d check = .good a ↔ check v = .good a := by
  rw [orElse, hv, Checked.within_eq_good]

end Fields

end TableDraft
