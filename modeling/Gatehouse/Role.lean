import Gatehouse.Id
import Gatehouse.Stamp.Basic

/-!
# Roles

A role is a named set of grants that users can hold.  Its flags describe what kind of role it is
(they also decide its class when users are moved between templates), and it remembers since when
public profiles are allowed for its holders.
-/

set_option autoImplicit false

namespace Gatehouse

open Std

/-- The flags of a role. -/
structure RoleFlags where
  /-- Holders may log in. -/
  canLogin : Bool
  /-- Holders administer the site. -/
  isAdmin : Bool
  /-- Holders have private labels. -/
  privateLabels : Bool
deriving DecidableEq, Repr

/-- A stored role. -/
structure Role where
  /-- Its identity. -/
  id : RoleId
  /-- Its name, which no other role has. -/
  name : String
  /-- Its flags. -/
  flags : RoleFlags
  /-- Since when public profiles are allowed. -/
  publicProfileAt : Option Stamp
deriving DecidableEq, Repr

/-- What is given to create a role. -/
structure NewRole where
  /-- The name. -/
  name : String
  /-- The flags. -/
  flags : RoleFlags := ⟨false, false, false⟩
  /-- Since when public profiles are allowed; from the moment of creation on, if not given. -/
  publicProfileAt : Option Stamp := none
deriving DecidableEq, Repr

/-- A change of a role; what is not given stays. -/
structure RoleChange where
  /-- The new name. -/
  name : Option String := none
  /-- Whether holders may log in. -/
  canLogin : Option Bool := none
  /-- Whether holders administer the site. -/
  isAdmin : Option Bool := none
  /-- Whether holders have private labels. -/
  privateLabels : Option Bool := none
deriving DecidableEq, Repr

/-- The change that sets all flags and keeps the name. -/
def RoleChange.ofFlags (flags : RoleFlags) : RoleChange :=
  ⟨none, some flags.canLogin, some flags.isAdmin, some flags.privateLabels⟩

/-- The role with a change made. -/
def Role.changed (r : Role) (c : RoleChange) : Role :=
  { r with
    name := c.name.getD r.name
    flags :=
      ⟨c.canLogin.getD r.flags.canLogin, c.isAdmin.getD r.flags.isAdmin,
        c.privateLabels.getD r.flags.privateLabels⟩ }

/-- A user holds a role. -/
structure Link where
  /-- The user. -/
  user : UserId
  /-- The role. -/
  role : RoleId
deriving DecidableEq, Repr

/-- Links are kept by user, then role. -/
def Link.order : Link → Link → Ordering := compareLex (compareOn Link.user) (compareOn Link.role)

instance : TransCmp Link.order := inferInstanceAs (TransCmp (compareLex _ _))

instance : LawfulEqCmp Link.order where
  eq_of_compare {a b} h := by
    simp only [Link.order, compareLex_eq_eq, compareOn] at h
    cases a; cases b
    simp_all

end Gatehouse
