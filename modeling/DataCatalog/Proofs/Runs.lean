/-!
# Runs that can fail

A computation that can fail and has a state runs from a state to an outcome and a state.  The lemmas
say what the parts of a computation make of a run, and what those of an outcome make of it.
-/

set_option autoImplicit false

namespace DataCatalog

section Runs

variable {σ ε ε' α β : Type}

/-- What follows a success begins in the state that it left. -/
theorem run_bind_ok {x : ExceptT ε (StateM σ) α} (f : α → ExceptT ε (StateM σ) β) {s t : σ} {a : α}
    (h : x.run.run s = (.ok a, t)) : (x >>= f).run.run s = (f a).run.run t := by
  have hbind : (x >>= f).run = x.run >>= ExceptT.bindCont f := rfl
  rw [hbind, StateT.run_bind, h]
  rfl

/-- Nothing follows a failure. -/
theorem run_bind_error {x : ExceptT ε (StateM σ) α} (f : α → ExceptT ε (StateM σ) β) {s t : σ}
    {e : ε} (h : x.run.run s = (.error e, t)) : (x >>= f).run.run s = (.error e, t) := by
  have hbind : (x >>= f).run = x.run >>= ExceptT.bindCont f := rfl
  rw [hbind, StateT.run_bind, h]
  rfl

/-- A sequence succeeds when both computations do, the second from where the first ended. -/
theorem run_bind_eq_ok {x : ExceptT ε (StateM σ) α} {f : α → ExceptT ε (StateM σ) β} {s t : σ}
    {b : β} (h : (x >>= f).run.run s = (.ok b, t)) :
    ∃ a middle, x.run.run s = (.ok a, middle) ∧ (f a).run.run middle = (.ok b, t) := by
  rcases hx : x.run.run s with ⟨outcome, middle⟩
  cases outcome with
  | error e =>
      rw [run_bind_error f hx] at h
      cases h
  | ok a => exact ⟨a, middle, rfl, by rwa [run_bind_ok f hx] at h⟩

/-- Two computations that change nothing, one after the other. -/
theorem run_bind_of_unchanged {x : ExceptT ε (StateM σ) α} {f : α → ExceptT ε (StateM σ) β}
    {s : σ} {o : Except ε α} {g : α → Except ε β} (hx : x.run.run s = (o, s))
    (hf : ∀ a, (f a).run.run s = (g a, s)) : (x >>= f).run.run s = (o.bind g, s) := by
  cases o with
  | error e => exact run_bind_error f hx
  | ok a => exact (run_bind_ok f hx).trans (hf a)

theorem run_liftM (x : StateM σ α) (s : σ) :
    (liftM x : ExceptT ε (StateM σ) α).run.run s = (.ok (x.run s).1, (x.run s).2) :=
  rfl

theorem run_liftM_bind (x : StateM σ α) (f : α → ExceptT ε (StateM σ) β) (s : σ) :
    ((liftM x : ExceptT ε (StateM σ) α) >>= f).run.run s =
      (f (x.run s).1).run.run (x.run s).2 :=
  rfl

theorem run_adapt (g : ε → ε') (x : ExceptT ε (StateM σ) α) (s : σ) :
    (ExceptT.adapt g x).run.run s = ((x.run.run s).1.mapError g, (x.run.run s).2) :=
  rfl

/-- Naming an error otherwise leaves the successes as they are. -/
theorem run_adapt_eq_ok {g : ε → ε'} {x : ExceptT ε (StateM σ) α} {s t : σ} {a : α}
    (h : (ExceptT.adapt g x).run.run s = (.ok a, t)) : x.run.run s = (.ok a, t) := by
  rw [run_adapt] at h
  rcases hx : x.run.run s with ⟨outcome, left⟩
  rw [hx] at h
  cases outcome with
  | error e => cases h
  | ok b =>
      cases h
      rfl

end Runs

/-! ## Outcomes -/

section Outcomes

variable {ε ε' α β γ : Type} {f : ε → ε'} {x : Except ε α} {g : α → Except ε β}

theorem bind_eq_error_iff {e : ε} :
    x.bind g = .error e ↔ x = .error e ∨ ∃ a, x = .ok a ∧ g a = .error e := by
  cases x with
  | error e => simp [Except.bind]
  | ok a => simp [Except.bind]

theorem mapError_eq_ok_iff {a : α} : x.mapError f = .ok a ↔ x = .ok a := by
  cases x with
  | error e =>
      constructor
      · intro h
        cases h
      · intro h
        cases h
  | ok b =>
      constructor
      · intro h
        cases h
        rfl
      · intro h
        cases h
        rfl

theorem mapError_eq_error_iff {e : ε'} :
    x.mapError f = .error e ↔ ∃ e', x = .error e' ∧ f e' = e := by
  cases x with
  | error e' =>
      constructor
      · intro h
        exact ⟨e', rfl, Except.error.inj h⟩
      · rintro ⟨_, heq, rfl⟩
        cases heq
        rfl
  | ok a =>
      constructor
      · intro h
        cases h
      · rintro ⟨_, heq, -⟩
        cases heq

theorem mapError_bind_bind (g : α → Except ε β) (h : β → Except ε' γ) :
    ((x.bind g).mapError f).bind h =
      (x.mapError f).bind fun a => ((g a).mapError f).bind h := by
  cases x with
  | error e => rfl
  | ok a => rfl

end Outcomes

end DataCatalog
