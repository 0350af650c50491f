import Gatehouse.Decision
import Gatehouse.Store.Backend

/-!
# Checking permissions

`Backend.check` looks up the grants that count for a request and decides by them.  What the backend
delivers is not taken on trust: grants that the subject does not hold or that do not cover the
request are left out.  A subject that is nobody gets the decision for no grants without a look-up.

A failed look-up is an error of `check`, and a plain no of `Backend.permits` and `Backend.demand`.
-/

set_option autoImplicit false

namespace Gatehouse

namespace Backend

variable {σ τ : Type}

/-- The user together with the roles held. -/
def subjectOf (b : Backend σ τ) (user : UserId) : Action σ Subject := do
  return ⟨(← b.rolesOf user).map (·.id), some user⟩

/-- The decision on a request. -/
def check (b : Backend σ τ) (subject : Subject) (request : Request) : Action σ Decision :=
  if subject.isEmpty then pure (.resolve [])
  else do
    let candidates ← b.grantsFor subject request
    let counting := candidates.filter fun g => g.heldBy subject && g.covers request
    return .resolve (counting.map (·.toTerms))

/-- Whether a request is granted; it is not if the look-up fails. -/
def permits (b : Backend σ τ) (subject : Subject) (request : Request) : Action σ Bool := do
  try return (← b.check subject request).allowed
  catch _ => return false

/-- Fails unless a request is granted. -/
def demand (b : Backend σ τ) (subject : Subject) (request : Request) : Action σ Unit := do
  if !(← b.permits subject request) then throw .forbidden

end Backend

end Gatehouse
