import Gatehouse.Store.Action
import Gatehouse.Store.Basic

/-!
# Backends

What is done with roles and grants is written against a `Backend`: the operations of a store as
actions on a state of any type.  A backend may fail where the store would not.

A transaction is opened with `Backend.begin`, works on a state of its own with the operations of
`Backend.within`, and shows only once `Backend.commit` has taken it over; dropping it needs no
operation.

There are two backends here: `Backend.memory` is the store itself, its transactions work on a copy,
and `Backend.closed` is a database that is gone.  `Backend.onFirst` keeps something else beside the
state of a backend, for others that differ from it in a few operations.
-/

set_option autoImplicit false

namespace Gatehouse

/-- The operations of a transaction with state `τ`. -/
structure Transaction (τ : Type) where
  /-- The role with a name. -/
  roleNamed : String → Action τ (Option Role)
  /-- Creates a role. -/
  insertRole : NewRole → Action τ Role
  /-- Sets the flags of a role. -/
  setFlags : RoleId → RoleFlags → Action τ Role
  /-- The grants of a role, as listed. -/
  grantsOfRole : RoleId → Action τ (List Grant)
  /-- Removes all grants of a role and counts them. -/
  clearRole : RoleId → Action τ Nat
  /-- Stores a grant. -/
  insertGrant : Draft → Action τ GrantId

/-- The operations of a store with state `σ` and transactions with state `τ`. -/
structure Backend (σ τ : Type) where
  /-- The roles by name. -/
  roles : Action σ (List Role)
  /-- The role with a name. -/
  roleNamed : String → Action σ (Option Role)
  /-- The role with an identity. -/
  role : RoleId → Action σ (Option Role)
  /-- Creates a role. -/
  createRole : NewRole → Action σ Role
  /-- Changes a role, if it is there. -/
  changeRole : RoleId → RoleChange → Action σ (Option Role)
  /-- Lets a user hold a role; tells whether that is new. -/
  assign : UserId → RoleId → Action σ Bool
  /-- Takes a role from a user; tells whether the user held it. -/
  revoke : UserId → RoleId → Action σ Bool
  /-- The roles a user holds, by name. -/
  rolesOf : UserId → Action σ (List Role)
  /-- The users who hold a role. -/
  usersOf : RoleId → Action σ (List UserId)
  /-- Which user holds which role. -/
  links : Action σ (List Link)
  /-- Stores a grant. -/
  createGrant : Draft → Action σ GrantId
  /-- The grant with an identity. -/
  grant : GrantId → Action σ (Option Grant)
  /-- Removes a grant; tells whether it was there. -/
  deleteGrant : GrantId → Action σ Bool
  /-- Puts a grant in or out of force; tells whether it is there. -/
  setActive : GrantId → Bool → Action σ Bool
  /-- Removes all grants of a role and counts them. -/
  clearRole : RoleId → Action σ Nat
  /-- Removes the grants of a role on exactly a section, item and action, and counts them. -/
  deleteAlike : RoleId → String → Option String → String → Action σ Nat
  /-- The grants of a role, as listed. -/
  grantsOfRole : RoleId → Action σ (List Grant)
  /-- The grants of a user, as listed. -/
  grantsOfUser : UserId → Action σ (List Grant)
  /-- The grants in a scope, by identity. -/
  grantsIn : Scope → Action σ (List Grant)
  /-- The grants that count for a request. -/
  grantsFor : Subject → Request → Action σ (List Grant)
  /-- Opens a transaction. -/
  begin : Action σ τ
  /-- What can be done in a transaction. -/
  within : Transaction τ
  /-- Takes over what a transaction has done. -/
  commit : τ → Action σ Unit

/-- The operations of a transaction on a copy of the store. -/
def Transaction.memory (now : Stamp) : Transaction Store where
  roleNamed name := .query (·.roleNamed? name)
  insertRole new := .attempt (·.insertRole now new)
  setFlags id flags := .attempt (·.setFlags id flags)
  grantsOfRole id := .query (·.grantsOfRole id)
  clearRole id := .update (·.clearRole id)
  insertGrant d := .attempt (·.insertGrant d)

namespace Backend

/-- The store itself, at a moment of the clock. -/
def memory (now : Stamp) : Backend Store Store where
  roles := .query (·.roleList)
  roleNamed name := .query (·.roleNamed? name)
  role id := .query (·.role? id)
  createRole new := .attempt (·.insertRole now new)
  changeRole id change := .attempt (·.changeRole id change)
  assign user role := .attempt (·.assign user role)
  revoke user role := .update (·.revoke user role)
  rolesOf user := .query (·.rolesOf user)
  usersOf role := .query (·.usersOf role)
  links := .query (·.links.rows)
  createGrant d := .attempt (·.insertGrant d)
  grant id := .query (·.grant? id)
  deleteGrant id := .update (·.deleteGrant id)
  setActive id active := .update (·.setActive id active)
  clearRole id := .update (·.clearRole id)
  deleteAlike role area item action := .update (·.deleteAlike role area item action)
  grantsOfRole id := .query (·.grantsOfRole id)
  grantsOfUser id := .query (·.grantsOfUser id)
  grantsIn scope := .query (·.grantsIn scope)
  grantsFor subject request := .query (·.grantsFor subject request)
  begin := .query id
  within := .memory now
  commit working := .update fun _ => ((), working)

/-- A backend on which everything fails. -/
def failing (σ τ : Type) (e : Error) : Backend σ τ where
  roles := .fail e
  roleNamed _ := .fail e
  role _ := .fail e
  createRole _ := .fail e
  changeRole _ _ := .fail e
  assign _ _ := .fail e
  revoke _ _ := .fail e
  rolesOf _ := .fail e
  usersOf _ := .fail e
  links := .fail e
  createGrant _ := .fail e
  grant _ := .fail e
  deleteGrant _ := .fail e
  setActive _ _ := .fail e
  clearRole _ := .fail e
  deleteAlike _ _ _ _ := .fail e
  grantsOfRole _ := .fail e
  grantsOfUser _ := .fail e
  grantsIn _ := .fail e
  grantsFor _ _ := .fail e
  begin := .fail e
  within :=
    { roleNamed := fun _ => .fail e
      insertRole := fun _ => .fail e
      setFlags := fun _ _ => .fail e
      grantsOfRole := fun _ => .fail e
      clearRole := fun _ => .fail e
      insertGrant := fun _ => .fail e }
  commit _ := .fail e

/-- A database that is gone. -/
def closed (σ τ : Type) : Backend σ τ :=
  failing σ τ (.database "attempted to acquire a connection on a closed pool")

/-- The backend on the first part of a state. -/
def onFirst {σ τ ρ : Type} (b : Backend σ τ) : Backend (σ × ρ) τ where
  roles := b.roles.onFirst
  roleNamed name := (b.roleNamed name).onFirst
  role id := (b.role id).onFirst
  createRole new := (b.createRole new).onFirst
  changeRole id change := (b.changeRole id change).onFirst
  assign user role := (b.assign user role).onFirst
  revoke user role := (b.revoke user role).onFirst
  rolesOf user := (b.rolesOf user).onFirst
  usersOf role := (b.usersOf role).onFirst
  links := b.links.onFirst
  createGrant d := (b.createGrant d).onFirst
  grant id := (b.grant id).onFirst
  deleteGrant id := (b.deleteGrant id).onFirst
  setActive id active := (b.setActive id active).onFirst
  clearRole id := (b.clearRole id).onFirst
  deleteAlike role area item action := (b.deleteAlike role area item action).onFirst
  grantsOfRole id := (b.grantsOfRole id).onFirst
  grantsOfUser id := (b.grantsOfUser id).onFirst
  grantsIn scope := (b.grantsIn scope).onFirst
  grantsFor subject request := (b.grantsFor subject request).onFirst
  begin := b.begin.onFirst
  within := b.within
  commit working := (b.commit working).onFirst

end Backend

end Gatehouse
