import Gatehouse.Store.Action

/-!
# How actions run

`x.run s` is what an action makes of a state: a result or an error, and the state it leaves.
Chaining two actions starts the second one where the first succeeded, and stops where it failed.
`run_bind` says so, and the lemmas after it are the forms in which proofs use it: `run_bind_of_ok`
and `run_bind_of_error` follow a run step by step, `run_bind_eq_ok_iff` takes one that succeeded
apart.
-/

set_option autoImplicit false

namespace Gatehouse

theorem except_bind_eq_ok_iff {ε α β : Type} {x : Except ε α} {f : α → Except ε β} {b : β} :
    (x >>= f) = .ok b ↔ ∃ a, x = .ok a ∧ f a = .ok b := by
  cases x <;> simp [bind, Except.bind]

namespace Action

variable {σ τ α β : Type}

/-- What an action makes of a state. -/
def run (x : Action σ α) (s : σ) : Except Error α × σ := x s

@[simp] theorem run_pure (a : α) (s : σ) : (pure a : Action σ α).run s = (.ok a, s) := rfl

theorem run_bind (x : Action σ α) (f : α → Action σ β) (s : σ) :
    (x >>= f).run s = match x.run s with
      | (.ok a, t) => (f a).run t
      | (.error e, t) => (.error e, t) := by
  cases h : x.run s with
  | mk r t =>
    have hx : x s = (r, t) := h
    simp only [run, bind, ExceptT.bind, ExceptT.mk, StateT.bind, hx]
    cases r <;> rfl

theorem run_bind_of_ok {x : Action σ α} {f : α → Action σ β} {s t : σ} {a : α}
    (h : x.run s = (.ok a, t)) : (x >>= f).run s = (f a).run t := by
  rw [run_bind, h]

theorem run_bind_of_error {x : Action σ α} {f : α → Action σ β} {s t : σ} {e : Error}
    (h : x.run s = (.error e, t)) : (x >>= f).run s = (.error e, t) := by
  rw [run_bind, h]

theorem run_bind_eq_ok_iff {x : Action σ α} {f : α → Action σ β} {s u : σ} {b : β} :
    (x >>= f).run s = (.ok b, u) ↔ ∃ a t, x.run s = (.ok a, t) ∧ (f a).run t = (.ok b, u) := by
  rw [run_bind]
  rcases x.run s with ⟨e | a, t⟩ <;> simp [and_assoc]

/-- A list is made entry by entry: the first one, and then the others. -/
theorem run_cons_eq_ok_iff {x : Action σ α} {xs : Action σ (List α)} {s t : σ} {as : List α} :
    (x >>= fun a => xs >>= fun rest => pure (a :: rest)).run s = (.ok as, t) ↔
      ∃ a rest u, x.run s = (.ok a, u) ∧ xs.run u = (.ok rest, t) ∧ as = a :: rest := by
  rw [run_bind_eq_ok_iff]
  constructor
  · rintro ⟨a, u, hfirst, hrest⟩
    obtain ⟨rest, t', hothers, hpure⟩ := run_bind_eq_ok_iff.1 hrest
    cases hpure
    exact ⟨a, rest, u, hfirst, hothers, rfl⟩
  · rintro ⟨a, rest, u, hfirst, hothers, rfl⟩
    exact ⟨a, u, hfirst, run_bind_of_ok hothers⟩

theorem run_tryCatch (x : Action σ α) (f : Error → Action σ α) (s : σ) :
    (tryCatch x f).run s = match x.run s with
      | (.ok a, t) => (.ok a, t)
      | (.error e, t) => (f e).run t := by
  cases h : x.run s with
  | mk r t =>
    have hx : x s = (r, t) := h
    simp only [run, tryCatch, tryCatchThe, MonadExceptOf.tryCatch, ExceptT.tryCatch, ExceptT.mk,
      bind, StateT.bind, hx]
    cases r <;> rfl

/-- An action that does not fail has a result. -/
theorem exists_run_eq_ok {x : Action σ α} {s : σ} (h : (x.run s).1.isOk = true) :
    ∃ a t, x.run s = (.ok a, t) := by
  rcases hrun : x.run s with ⟨e | a, t⟩
  · rw [hrun] at h; cases h
  · exact ⟨a, t, rfl⟩

/-! ## The ways to make an action -/

@[simp] theorem run_lift (x : Except Error α) (s : σ) : (lift x).run s = (x, s) := rfl

@[simp] theorem run_fail (e : Error) (s : σ) : (fail e : Action σ α).run s = (.error e, s) := rfl

theorem run_query_of_eq {f : σ → α} {s : σ} {a : α} (h : f s = a) :
    (query f).run s = (.ok a, s) := by
  rw [← h]
  rfl

theorem run_update_of_eq {f : σ → α × σ} {s t : σ} {a : α} (h : f s = (a, t)) :
    (update f).run s = (.ok a, t) := by
  show ((.ok (f s).1, (f s).2) : Except Error α × σ) = _
  rw [h]

theorem run_attempt (f : σ → Except Error (α × σ)) (s : σ) :
    (attempt f).run s = match f s with
      | .ok (a, t) => (.ok a, t)
      | .error e => (.error e, s) := rfl

theorem run_attempt_eq_ok_iff {f : σ → Except Error (α × σ)} {s t : σ} {a : α} :
    (attempt f).run s = (.ok a, t) ↔ f s = .ok (a, t) := by
  rw [run_attempt]
  rcases f s with e | ⟨a', t'⟩ <;> simp

theorem run_attempt_of_error {f : σ → Except Error (α × σ)} {s : σ} {e : Error}
    (h : f s = .error e) : (attempt f).run s = (.error e, s) := by
  rw [run_attempt, h]

theorem exists_of_run_attempt {f : σ → Except Error (α × σ)} {s : σ} {a : α}
    (h : ((attempt f).run s).1 = .ok a) : ∃ t, f s = .ok (a, t) ∧ ((attempt f).run s).2 = t := by
  rw [run_attempt] at h ⊢
  rcases hf : f s with e | ⟨a', t⟩ <;> rw [hf] at h <;> cases h
  exact ⟨t, rfl, rfl⟩

/-- What holds of a state and of what it becomes when something is done to it holds also when doing
it fails. -/
theorem state_attempt {P : σ → Prop} {f : σ → Except Error (α × σ)} {s : σ} (hs : P s)
    (hf : ∀ a t, f s = .ok (a, t) → P t) : P ((attempt f).run s).2 := by
  rw [run_attempt]
  cases h : f s with
  | error e => exact hs
  | ok p => exact hf p.1 p.2 h

theorem run_require_eq_ok_iff {absent : Absent} {o : Option α} {s t : σ} {a : α} :
    (require absent o).run s = (.ok a, t) ↔ o = some a ∧ t = s := by
  cases o <;> simp [require, eq_comm]

end Action

end Gatehouse
