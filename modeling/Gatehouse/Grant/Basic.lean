import Gatehouse.Id

/-!
# Grants

A grant lets its owner, a role or a single user, do an action in a section of the site, or forbids
it.  It may be narrowed to one kind of item of the section, and further to one instance of it; how
far it is narrowed is its `Tier`.

What a grant says apart from who holds it is its `Terms`.  A `Draft` adds the owner and a `Grant`
the identity under which it is stored.  Drafts are made with `Draft.new` and narrowed with
`Draft.onItem` and `Draft.onInstance`, which is why a draft with an instance always has an item.
-/

set_option autoImplicit false

namespace Gatehouse

open Std

/-- What a grant does. -/
inductive Rule where
  | allow
  | deny
deriving DecidableEq, Repr, Inhabited

/-- The word for a rule. -/
def Rule.word : Rule → String
  | .allow => "allow"
  | .deny => "deny"

/-- Who holds a grant. -/
inductive Owner where
  /-- Everyone who holds a role. -/
  | role (id : RoleId)
  /-- A single user. -/
  | user (id : UserId)
deriving DecidableEq, Repr

/-- The role, if a role is the owner. -/
def Owner.role? : Owner → Option RoleId
  | .role id => some id
  | .user _ => none

/-- The user, if a user is the owner. -/
def Owner.user? : Owner → Option UserId
  | .role _ => none
  | .user id => some id

/-- How far a grant is narrowed; the later, the further. -/
inductive Tier where
  /-- The whole section. -/
  | whole
  /-- All instances of one kind of item. -/
  | item
  /-- A single instance of an item. -/
  | single
deriving DecidableEq, Repr

/-- The place of a tier in the order of narrowness. -/
def Tier.rank : Tier → Nat
  | .whole => 0
  | .item => 1
  | .single => 2

theorem Tier.rank_injective {s t : Tier} (h : s.rank = t.rank) : s = t := by
  cases s <;> cases t <;> simp_all [Tier.rank]

/-- The word for a tier. -/
def Tier.word : Tier → String
  | .whole => "section"
  | .item => "item"
  | .single => "instance"

/-- The tier of a grant with this item and instance; an instance without an item does not narrow. -/
def Tier.of (item : Option String) (itemId : Option Int32) : Tier :=
  match item, itemId with
  | some _, some _ => .single
  | some _, none => .item
  | none, _ => .whole

/-- What a grant says, apart from who holds it. -/
structure Terms where
  /-- The section of the site. -/
  area : String
  /-- The kind of item it is narrowed to. -/
  item : Option String := none
  /-- The instance it is narrowed to. -/
  itemId : Option Int32 := none
  /-- Whether it allows or denies. -/
  rule : Rule := .allow
  /-- A remark on the item, which decides nothing. -/
  itemRule : Option String := none
  /-- The action. -/
  action : String
  /-- Another remark, which decides nothing. -/
  extra : Option String := none
  /-- Whether the grant is in force. -/
  active : Bool := true
deriving DecidableEq, Repr

/-- How far the terms are narrowed. -/
def Terms.tier (t : Terms) : Tier := Tier.of t.item t.itemId

/-- A grant to be stored. -/
structure Draft extends Terms where
  /-- Who will hold it. -/
  owner : Owner
deriving DecidableEq, Repr

/-- A stored grant. -/
structure Grant extends Terms where
  /-- Its identity. -/
  id : GrantId
  /-- Who holds it. -/
  owner : Owner
deriving DecidableEq, Repr

namespace Draft

/-- A grant on a whole section that allows and is in force. -/
def new (owner : Owner) (area action : String) : Draft :=
  { area := area, action := action, owner := owner }

/-- Narrows a draft to a kind of item, all its instances. -/
def onItem (d : Draft) (item : String) : Draft := { d with item := some item, itemId := none }

/-- Narrows a draft to a single instance of an item. -/
def onInstance (d : Draft) (item : String) (itemId : Int32) : Draft :=
  { d with item := some item, itemId := some itemId }

/-- Sets what the draft does. -/
def withRule (d : Draft) (rule : Rule) : Draft := { d with rule := rule }

/-- Makes the draft forbid. -/
def deny (d : Draft) : Draft := d.withRule .deny

/-- Adds a remark on the item. -/
def withItemRule (d : Draft) (remark : String) : Draft := { d with itemRule := some remark }

/-- Adds a remark. -/
def withExtra (d : Draft) (remark : String) : Draft := { d with extra := some remark }

/-- Puts the draft in or out of force. -/
def inForce (d : Draft) (active : Bool) : Draft := { d with active := active }

/-- The draft stored under an identity. -/
def store (d : Draft) (id : GrantId) : Grant :=
  { toTerms := d.toTerms, id := id, owner := d.owner }

end Draft

/-- The grant put in or out of force. -/
def Grant.inForce (g : Grant) (active : Bool) : Grant := { g with active := active }

/-- The order of a listing of grants: section, item, instance, action, identity; an unset part comes
before any other. -/
def Grant.listing : Grant → Grant → Ordering :=
  compareLex (compareOn (·.area)) <| compareLex (compareOn (·.item)) <|
    compareLex (compareOn (·.itemId)) <| compareLex (compareOn (·.action)) (compareOn (·.id))

instance : TransCmp Grant.listing := inferInstanceAs (TransCmp (compareLex _ _))

end Gatehouse
