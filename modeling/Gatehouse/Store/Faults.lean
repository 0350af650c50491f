import Gatehouse.Store.Backend

/-!
# Backends that fail on purpose

To see what is left behind when a store fails half-way, `Faults.inject` puts a layer over a backend
that fails at chosen points, or shows what an interfering client would cause.
-/

set_option autoImplicit false

namespace Gatehouse

/-- Where a backend is to fail. -/
structure Faults where
  /-- The number, counted from 1, of the grant in a transaction that is not stored. -/
  insertAt : Option Nat := none
  /-- Removing these grants fails. -/
  failDelete : List GrantId := []
  /-- These grants are gone just before they are removed. -/
  deletedElsewhere : List GrantId := []
  /-- Looking up the grants for a request fails. -/
  failLookup : Bool := false
  /-- Looking up the grants for a request gives all grants there are. -/
  lenientLookup : Bool := false
deriving DecidableEq, Repr

namespace Faults

/-- The error of a failure on purpose. -/
def injected (what : String) : Error := .internal ("injected failure: " ++ what)

/-- Stores a grant and counts it, unless it is the one to be refused. -/
def countInsert {τ : Type} (f : Faults) (insert : Action τ GrantId) : Action (τ × Nat) GrantId :=
  fun s =>
    let count := s.2 + 1
    if f.insertAt = some count then (.error (injected "insert_grant"), (s.1, count))
    else insert.onFirst (s.1, count)

/-- The operations of a transaction with the faults; its state counts the grants stored. -/
def within {τ : Type} (f : Faults) (t : Transaction τ) : Transaction (τ × Nat) where
  roleNamed name := (t.roleNamed name).onFirst
  insertRole new := (t.insertRole new).onFirst
  setFlags id flags := (t.setFlags id flags).onFirst
  grantsOfRole id := (t.grantsOfRole id).onFirst
  clearRole id := (t.clearRole id).onFirst
  insertGrant d := f.countInsert (t.insertGrant d)

/-- Removes a grant, unless that is to fail or someone else is to have removed it before. -/
def deleteGrant {σ τ : Type} (f : Faults) (b : Backend σ τ) (id : GrantId) : Action σ Bool := do
  if id ∈ f.failDelete then throw (injected "delete_grant")
  if id ∈ f.deletedElsewhere then
    let _ ← b.deleteGrant id
  b.deleteGrant id

/-- Looks up the grants for a request, unless that is to fail or to give too many. -/
def grantsFor {σ τ : Type} (f : Faults) (b : Backend σ τ) (subject : Subject)
    (request : Request) : Action σ (List Grant) :=
  if f.failLookup then throw (injected "matching_grants")
  else if f.lenientLookup then b.grantsIn {}
  else b.grantsFor subject request

/-- A backend with the faults. -/
def inject {σ τ : Type} (f : Faults) (b : Backend σ τ) : Backend σ (τ × Nat) where
  roles := b.roles
  roleNamed := b.roleNamed
  role := b.role
  createRole := b.createRole
  changeRole := b.changeRole
  assign := b.assign
  revoke := b.revoke
  rolesOf := b.rolesOf
  usersOf := b.usersOf
  links := b.links
  createGrant := b.createGrant
  grant := b.grant
  deleteGrant := f.deleteGrant b
  setActive := b.setActive
  clearRole := b.clearRole
  deleteAlike := b.deleteAlike
  grantsOfRole := b.grantsOfRole
  grantsOfUser := b.grantsOfUser
  grantsIn := b.grantsIn
  grantsFor := f.grantsFor b
  begin := do return (← b.begin, 0)
  within := f.within b.within
  commit working := b.commit working.1

end Faults

end Gatehouse
