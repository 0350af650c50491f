import Gatehouse.Error
import Gatehouse.Table
import Gatehouse.Text.Blank

/-!
# The store

A store keeps the roles, which user holds which role, and the grants, each in a table, and the last
identity given to a role and to a grant.  Identities are given in ascending order and never twice,
also not after the role or grant is gone.

Operations are functions on the value.  One that can fail gives an error or its result together with
the store after it, so a failed operation has no store to leave a mark on.  What holds of the store
through all of them: no two roles share a name, and whatever refers to a role refers to one that is
there.
-/

set_option autoImplicit false

namespace Gatehouse

open Std

/-- Roles are kept by identity. -/
def Role.byId : Role → Role → Ordering := compareOn Role.id

/-- Grants are kept by identity. -/
def Grant.byId : Grant → Grant → Ordering := compareOn Grant.id

/-- Roles are listed by name. -/
def Role.byName : Role → Role → Ordering := compareOn Role.name

instance : TransCmp Role.byId := inferInstanceAs (TransCmp (compareOn _))

instance : TransCmp Grant.byId := inferInstanceAs (TransCmp (compareOn _))

instance : TransCmp Role.byName := inferInstanceAs (TransCmp (compareOn _))

/-- Roles, who holds them, and grants. -/
structure Store where
  /-- The roles. -/
  roles : Table Role.byId
  /-- Which user holds which role. -/
  links : Table Link.order
  /-- The grants. -/
  grants : Table Grant.byId
  /-- The last identity given to a role. -/
  lastRole : Int32
  /-- The last identity given to a grant. -/
  lastGrant : Int32
deriving DecidableEq

namespace Store

/-- Nothing stored, no identity given. -/
def empty : Store := ⟨.empty, .empty, .empty, 0, 0⟩

instance : Inhabited Store := ⟨empty⟩

/-! ## Roles -/

/-- The roles by name. -/
def roleList (s : Store) : List Role := sortBy Role.byName s.roles.rows

/-- The role with a name. -/
def roleNamed? (s : Store) (name : String) : Option Role := s.roles.find? (·.name == name)

/-- The role with an identity. -/
def role? (s : Store) (id : RoleId) : Option Role := s.roles.find? (·.id == id)

/-- Creates a role under the next identity.  Public profiles are allowed from `now` on, unless the
role says since when. -/
def insertRole (s : Store) (now : Stamp) (new : NewRole) : Except Error (Role × Store) :=
  if allBlank new.name then .error (.validation .blankRoleName)
  else if (s.roleNamed? new.name).isSome then .error (.validation (.roleNameTaken new.name))
  else
    let role : Role := ⟨⟨s.lastRole + 1⟩, new.name, new.flags, some (new.publicProfileAt.getD now)⟩
    .ok (role, { s with roles := s.roles.insert role, lastRole := s.lastRole + 1 })

/-- Writes a role in place of the one with its identity. -/
def setRole (s : Store) (role : Role) : Store := { s with roles := s.roles.insert role }

/-- Sets the flags of a role. -/
def setFlags (s : Store) (id : RoleId) (flags : RoleFlags) : Except Error (Role × Store) :=
  match s.role? id with
  | none => .error (.notFound (.role id))
  | some role =>
    let role := role.changed (.ofFlags flags)
    .ok (role, s.setRole role)

/-- Another role than the one with the identity has the name. -/
def nameTaken (s : Store) (id : RoleId) (name : String) : Bool :=
  s.roles.rows.any fun r => r.id != id && r.name == name

/-- Changes a role.  The new name is looked at first, and only then whether the role is there. -/
def changeRole (s : Store) (id : RoleId) (change : RoleChange) :
    Except Error (Option Role × Store) :=
  match change.name.filter (s.nameTaken id) with
  | some name => .error (.validation (.roleNameTaken name))
  | none =>
    match s.role? id with
    | none => .ok (none, s)
    | some role =>
      let role := role.changed change
      .ok (some role, s.setRole role)

/-! ## Who holds which role -/

/-- Lets a user hold a role; tells whether that is new. -/
def assign (s : Store) (user : UserId) (role : RoleId) : Except Error (Bool × Store) :=
  match s.role? role with
  | none => .error (.notFound (.role role))
  | some _ =>
    if ⟨user, role⟩ ∈ s.links then .ok (false, s)
    else .ok (true, { s with links := s.links.insert ⟨user, role⟩ })

/-- Takes a role from a user; tells whether the user held it. -/
def revoke (s : Store) (user : UserId) (role : RoleId) : Bool × Store :=
  (⟨user, role⟩ ∈ s.links, { s with links := s.links.filter (· ≠ ⟨user, role⟩) })

/-- The roles a user holds, by name. -/
def rolesOf (s : Store) (user : UserId) : List Role :=
  sortBy Role.byName <|
    (s.links.rows.filter (·.user == user)).filterMap fun l => s.role? l.role

/-- The users who hold a role. -/
def usersOf (s : Store) (role : RoleId) : List UserId :=
  (s.links.rows.filter (·.role == role)).map (·.user)

/-! ## Grants -/

/-- Stores a grant under the next identity.  A role that is to hold it must be there. -/
def insertGrant (s : Store) (d : Draft) : Except Error (GrantId × Store) :=
  match d.owner.role?.filter fun role => (s.role? role).isNone with
  | some role => .error (.notFound (.role role))
  | none =>
    let id : GrantId := ⟨s.lastGrant + 1⟩
    .ok (id, { s with grants := s.grants.insert (d.store id), lastGrant := s.lastGrant + 1 })

/-- The grant with an identity. -/
def grant? (s : Store) (id : GrantId) : Option Grant := s.grants.find? (·.id == id)

/-- Removes the grants that satisfy `p`; tells how many there were. -/
def deleteGrants (s : Store) (p : Grant → Bool) : Nat × Store :=
  let rest := s.grants.filter fun g => !p g
  (s.grants.size - rest.size, { s with grants := rest })

/-- Removes a grant; tells whether it was there. -/
def deleteGrant (s : Store) (id : GrantId) : Bool × Store :=
  ((s.grant? id).isSome, { s with grants := s.grants.filter (·.id != id) })

/-- Puts a grant in or out of force; tells whether it is there. -/
def setActive (s : Store) (id : GrantId) (active : Bool) : Bool × Store :=
  match s.grant? id with
  | none => (false, s)
  | some g => (true, { s with grants := s.grants.insert (g.inForce active) })

/-- Removes all grants of a role. -/
def clearRole (s : Store) (role : RoleId) : Nat × Store :=
  s.deleteGrants fun g => g.owner.role? == some role

/-- Removes the grants of a role on exactly this section, item and action, whatever their
instance. -/
def deleteAlike (s : Store) (role : RoleId) (area : String) (item : Option String)
    (action : String) : Nat × Store :=
  s.deleteGrants fun g =>
    g.owner.role? == some role && g.area == area && g.item == item && g.action == action

/-- The grants that satisfy `p`, in the order of a listing. -/
def grantsWhere (s : Store) (p : Grant → Bool) : List Grant :=
  sortBy Grant.listing (s.grants.rows.filter p)

/-- The grants of a role. -/
def grantsOfRole (s : Store) (role : RoleId) : List Grant :=
  s.grantsWhere fun g => g.owner.role? == some role

/-- The grants of a user, without those of the roles held. -/
def grantsOfUser (s : Store) (user : UserId) : List Grant :=
  s.grantsWhere fun g => g.owner.user? == some user

/-- The grants in a scope, by identity. -/
def grantsIn (s : Store) (scope : Scope) : List Grant :=
  s.grants.rows.filter fun g => scope.meets g.toTerms

/-- The grants that count for a request. -/
def grantsFor (s : Store) (subject : Subject) (request : Request) : List Grant :=
  s.grantsWhere fun g => g.heldBy subject && g.covers request

end Store

end Gatehouse
