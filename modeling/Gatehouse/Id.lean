import Gatehouse.Decimal.Integer

/-!
# Identities

Roles, users and grants are told apart by numbers of 32 bits, each kind with a type of its own.
Roles and grants get theirs from counters of the store; users are managed elsewhere and only
referred to.
-/

set_option autoImplicit false

namespace Gatehouse

open Std

/-- The identity of a role. -/
structure RoleId where
  /-- The number. -/
  value : Int32
deriving DecidableEq, Repr, Inhabited

/-- The identity of a user. -/
structure UserId where
  /-- The number. -/
  value : Int32
deriving DecidableEq, Repr, Inhabited

/-- The identity of a grant. -/
structure GrantId where
  /-- The number. -/
  value : Int32
deriving DecidableEq, Repr, Inhabited

instance : Ord RoleId := ⟨compareOn RoleId.value⟩

instance : Ord UserId := ⟨compareOn UserId.value⟩

instance : Ord GrantId := ⟨compareOn GrantId.value⟩

instance : TransOrd RoleId := inferInstanceAs (TransCmp (compareOn RoleId.value))

instance : TransOrd UserId := inferInstanceAs (TransCmp (compareOn UserId.value))

instance : TransOrd GrantId := inferInstanceAs (TransCmp (compareOn GrantId.value))

instance : LawfulEqOrd RoleId where
  eq_of_compare {a b} h := by
    have h : compare a.value b.value = .eq := h
    cases a; cases b; exact congrArg _ (LawfulEqCmp.eq_of_compare h)

instance : LawfulEqOrd UserId where
  eq_of_compare {a b} h := by
    have h : compare a.value b.value = .eq := h
    cases a; cases b; exact congrArg _ (LawfulEqCmp.eq_of_compare h)

instance : LawfulEqOrd GrantId where
  eq_of_compare {a b} h := by
    have h : compare a.value b.value = .eq := h
    cases a; cases b; exact congrArg _ (LawfulEqCmp.eq_of_compare h)

theorem RoleId.compare_eq_lt_iff {a b : RoleId} : compare a b = .lt ↔ a.value < b.value := by
  show compare a.value b.value = .lt ↔ _
  exact compare_eq_lt

theorem UserId.compare_eq_lt_iff {a b : UserId} : compare a b = .lt ↔ a.value < b.value := by
  show compare a.value b.value = .lt ↔ _
  exact compare_eq_lt

theorem GrantId.compare_eq_lt_iff {a b : GrantId} : compare a b = .lt ↔ a.value < b.value := by
  show compare a.value b.value = .lt ↔ _
  exact compare_eq_lt

/-- A number of 32 bits in decimal. -/
def showInt32 (n : Int32) : String := showInt n.toInt

/-- The identity in decimal. -/
def RoleId.text (i : RoleId) : String := showInt32 i.value

/-- The identity in decimal. -/
def UserId.text (i : UserId) : String := showInt32 i.value

/-- The identity in decimal. -/
def GrantId.text (i : GrantId) : String := showInt32 i.value

end Gatehouse
