import Gatehouse.Store.Backend

/-!
# Roles that include others

A role includes another if every grant of the other one is also among its own, the owner and the
identity left aside.  A role without grants is included by none.  This is information for whoever
tidies up roles and decides nothing.
-/

set_option autoImplicit false

namespace Gatehouse

open Std

/-- Everything said by the second list of grants is said by the first. -/
def includes (target candidate : List Grant) : Bool :=
  candidate.all fun c => target.any fun t => t.toTerms == c.toTerms

/-- A role includes another. -/
structure InclusionPair where
  /-- The name of the role that includes. -/
  includer : String
  /-- The name of the role that is included. -/
  included : String
deriving DecidableEq, Repr

/-- Pairs are listed by the role that includes, then by the one included. -/
def InclusionPair.order : InclusionPair → InclusionPair → Ordering :=
  compareLex (compareOn includer) (compareOn included)

instance : TransCmp InclusionPair.order := inferInstanceAs (TransCmp (compareLex _ _))

/-- Everything about a role. -/
structure Inspection where
  /-- The role. -/
  role : Role
  /-- The users who hold it. -/
  users : List UserId
  /-- Its grants. -/
  grants : List Grant
  /-- The names of the roles it includes. -/
  includes : List String
deriving DecidableEq, Repr

/-- A role with its grants. -/
abbrev RoleGrants := Role × List Grant

/-- The names of the other roles that a role includes, in order. -/
def includedBy (target : RoleGrants) (all : List RoleGrants) : List String :=
  sortBy compare <|
    (all.filter fun (role, grants) =>
      role.id != target.1.id && !grants.isEmpty && includes target.2 grants).map (·.1.name)

/-- All pairs of a role and another that it includes. -/
def inclusionPairs (all : List RoleGrants) : List InclusionPair :=
  sortBy InclusionPair.order <|
    all.flatMap fun target => (includedBy target all).map fun name => ⟨target.1.name, name⟩

namespace Backend

variable {σ τ : Type}

/-- Roles with their grants. -/
def withGrants (b : Backend σ τ) : List Role → Action σ (List RoleGrants)
  | [] => pure []
  | role :: rest => do
    let grants ← b.grantsOfRole role.id
    return (role, grants) :: (← b.withGrants rest)

/-- All roles with their grants. -/
def allGrants (b : Backend σ τ) : Action σ (List RoleGrants) := do b.withGrants (← b.roles)

/-- The role with a name among roles with their grants. -/
def select (all : List RoleGrants) (name : String) : Action σ RoleGrants :=
  Action.require (.roleNamed name) (all.find? (·.1.name == name))

/-- The names of the roles that the role with a name includes. -/
def inclusions (b : Backend σ τ) (name : String) : Action σ (List String) := do
  let all ← b.allGrants
  return includedBy (← select all name) all

/-- Everything about the role with a name. -/
def inspect (b : Backend σ τ) (name : String) : Action σ Inspection := do
  let all ← b.allGrants
  let target ← select all name
  let users ← b.usersOf target.1.id
  return ⟨target.1, users, target.2, includedBy target all⟩

/-- All pairs of a role and another that it includes. -/
def matrix (b : Backend σ τ) : Action σ (List InclusionPair) := do
  return inclusionPairs (← b.allGrants)

end Backend

end Gatehouse
