import Gatehouse.Grant.Basic

/-!
# Requests

A `Request` asks whether an action may be done in a section, perhaps on an item or an instance of
it; a `Subject` is who asks, a user or some roles or both.  A grant counts for a request when it is
held by the subject (`Grant.heldBy`) and covers the request (`Terms.covers`).

A `Scope` picks grants for maintenance: those that agree with every part it sets.
-/

set_option autoImplicit false

namespace Gatehouse

/-- Who asks: a user, the roles held, or both. -/
structure Subject where
  /-- The roles. -/
  roles : List RoleId := []
  /-- The user. -/
  user : Option UserId := none
deriving DecidableEq, Repr, Inhabited

/-- Neither a user nor any role. -/
def Subject.isEmpty (s : Subject) : Bool := s.roles.isEmpty && s.user.isNone

/-- What is asked. -/
structure Request where
  /-- The section of the site. -/
  area : String
  /-- The kind of item, if one is meant. -/
  item : Option String := none
  /-- The instance, if one is meant. -/
  itemId : Option Int32 := none
  /-- The action. -/
  action : String
deriving DecidableEq, Repr

/-- The instance in brackets after a line, if there is one. -/
def bracketed (itemId : Option Int32) : String :=
  match itemId with
  | none => ""
  | some n => " [" ++ showInt32 n ++ "]"

/-- The request on one line. -/
def Request.text (q : Request) : String :=
  q.area ++ "/" ++ q.item.getD "*" ++ "/" ++ q.action ++ bracketed q.itemId

/-- The owner is one of the roles of the subject or its user. -/
def Owner.isOf (o : Owner) (s : Subject) : Bool :=
  match o with
  | .role id => id ∈ s.roles
  | .user id => s.user == some id

/-- The grant is held by the subject. -/
def Grant.heldBy (g : Grant) (s : Subject) : Bool := g.owner.isOf s

/-- The terms are in force and speak about the request: same section, same action, and the item and
instance they are narrowed to, if any, are those of the request. -/
def Terms.covers (t : Terms) (q : Request) : Bool :=
  t.active && t.area == q.area && t.action == q.action
    && (match t.item with
      | none => true
      | some item => q.item == some item)
    && (match t.itemId with
      | none => true
      | some id => q.itemId == some id)

/-- Which grants are meant; a part that is not set leaves it open. -/
structure Scope where
  /-- The section of the site. -/
  area : Option String := none
  /-- The kind of item. -/
  item : Option String := none
  /-- The instance. -/
  itemId : Option Int32 := none
deriving DecidableEq, Repr, Inhabited

/-- A single instance of an item. -/
def Scope.single (area item : String) (itemId : Int32) : Scope :=
  ⟨some area, some item, some itemId⟩

/-- The terms agree with every part that the scope sets. -/
def Scope.meets (f : Scope) (t : Terms) : Bool :=
  (match f.area with
    | none => true
    | some area => area == t.area)
    && (match f.item with
      | none => true
      | some item => t.item == some item)
    && (match f.itemId with
      | none => true
      | some id => t.itemId == some id)

end Gatehouse
