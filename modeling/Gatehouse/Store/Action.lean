import Gatehouse.Error

/-!
# Actions

An action works on a state and may fail.  When it fails the state stays as far as it got, so whether
a failure leaves a mark is up to the action: those made with `Action.attempt` leave none.
-/

set_option autoImplicit false

namespace Gatehouse

/-- Something done to a state of type `σ`, with a result of type `α` or an error. -/
abbrev Action (σ : Type) := ExceptT Error (StateM σ)

namespace Action

variable {σ τ α : Type}

/-- Looks something up. -/
def query (f : σ → α) : Action σ α := fun s => (.ok (f s), s)

/-- Changes the state. -/
def update (f : σ → α × σ) : Action σ α := fun s => (.ok (f s).1, (f s).2)

/-- Changes the state, or fails and leaves it as it is. -/
def attempt (f : σ → Except Error (α × σ)) : Action σ α := fun s =>
  match f s with
  | .ok (a, s') => (.ok a, s')
  | .error e => (.error e, s)

/-- Fails. -/
def fail (e : Error) : Action σ α := fun s => (.error e, s)

/-- Goes on with a result that may be an error. -/
def lift (x : Except Error α) : Action σ α := fun s => (x, s)

/-- The result that is asked for, or an error if there is none. -/
def require (absent : Absent) : Option α → Action σ α
  | none => fail (.notFound absent)
  | some a => pure a

/-- Does something to the first part of a state. -/
def onFirst (x : Action σ α) : Action (σ × τ) α := fun s =>
  let (a, s') := x s.1
  (a, (s', s.2))

end Action

end Gatehouse
