import Gatehouse.Grant.Basic
import Gatehouse.Grant.Request
import Gatehouse.Role

/-!
# Scenarios

A scenario is a named template for the roles of a site.  Each of its roles has lines, and each line
stands for a grant that allows and is in force.

A line may spell "not narrowed" in two ways: an item that is missing or empty, an instance that is
missing or 0.  `GrantLine.item?` and `GrantLine.instance?` see through the spelling, and everything
a line means is said through them: the draft it becomes, its text, and its `Signature`.

A signature is what a review of a scenario compares: the scope and the action of a grant, leaving
out rule and remarks.  Both lines and stored grants have one.
-/

set_option autoImplicit false

namespace Gatehouse

open Std

/-! ## Lines, roles, scenarios -/

/-- A line of a role template. -/
structure GrantLine where
  /-- The section of the site. -/
  area : String
  /-- The kind of item; empty means the same as missing. -/
  item : Option String := none
  /-- The action. -/
  action : String
  /-- The instance; 0 means the same as missing. -/
  itemId : Option Int32 := none
deriving DecidableEq, Repr

/-- A role as a scenario describes it. -/
structure RoleTemplate where
  /-- The name of the role. -/
  name : String
  /-- Whether holders may log in. -/
  canLogin : Bool := false
  /-- Whether holders administer the site. -/
  isAdmin : Bool := false
  /-- A description for readers. -/
  description : String := ""
  /-- The lines. -/
  lines : List GrantLine := []
deriving DecidableEq, Repr

/-- A named template for the roles of a site. -/
structure Scenario where
  /-- The name. -/
  name : String
  /-- A description for readers. -/
  description : String := ""
  /-- The roles. -/
  roles : List RoleTemplate
deriving DecidableEq, Repr

namespace GrantLine

/-- The kind of item the line is narrowed to. -/
def item? (l : GrantLine) : Option String := l.item.filter (· ≠ "")

/-- The instance the line speaks of. -/
def instance? (l : GrantLine) : Option Int32 := l.itemId.filter (· ≠ 0)

/-- The grant that the line stands for.  Without an item it is on the whole section. -/
def draft (l : GrantLine) (role : RoleId) : Draft :=
  let whole := Draft.new (.role role) l.area l.action
  match l.item?, l.instance? with
  | some item, some id => whole.onInstance item id
  | some item, none => whole.onItem item
  | none, _ => whole

/-- The line as shown to readers. -/
def text (l : GrantLine) : String :=
  l.area ++ " / " ++ l.item?.getD "*" ++ " / " ++ l.action ++
    match l.instance? with
    | none => ""
    | some id => " (ID: " ++ showInt32 id ++ ")"

end GrantLine

/-- The flags a role gets from its template.  Who may log in has private labels. -/
def RoleTemplate.flags (t : RoleTemplate) : RoleFlags := ⟨t.canLogin, t.isAdmin, t.canLogin⟩

/-- The first role with a name. -/
def Scenario.role? (s : Scenario) (name : String) : Option RoleTemplate :=
  s.roles.find? (·.name == name)

/-! ## Signatures -/

/-- The scope and the action of a grant. -/
structure Signature where
  /-- The section of the site. -/
  area : String
  /-- The kind of item. -/
  item : Option String
  /-- The action. -/
  action : String
  /-- The instance. -/
  itemId : Option Int32
deriving DecidableEq, Repr

namespace Signature

/-- Signatures are listed by section, item, action, instance; an unset part comes first. -/
def order : Signature → Signature → Ordering :=
  compareLex (compareOn area) <| compareLex (compareOn item) <|
    compareLex (compareOn action) (compareOn itemId)

instance : TransCmp order := inferInstanceAs (TransCmp (compareLex _ _))

instance : LawfulEqCmp order where
  eq_of_compare {a b} h := by
    simp only [order, compareLex_eq_eq, compareOn, LawfulEqCmp.compare_eq_iff_eq] at h
    obtain ⟨h1, h2, h3, h4⟩ := h
    cases a; cases b
    simp_all

/-- The signature on one line. -/
def text (s : Signature) : String :=
  s.area ++ " / " ++ s.item.getD "*" ++ " / " ++ s.action ++ bracketed s.itemId

end Signature

/-- The signature of a line. -/
def GrantLine.signature (l : GrantLine) : Signature := ⟨l.area, l.item?, l.action, l.instance?⟩

/-- The signature of what a grant says. -/
def Terms.signature (t : Terms) : Signature := ⟨t.area, t.item, t.action, t.itemId⟩

end Gatehouse
