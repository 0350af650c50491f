import Gatehouse.Decision
import Gatehouse.Json.Value
import Gatehouse.Scenario.Basic

/-!
# Writing records

The JSON form of what is stored and of what a scenario is made of.  The members of each object stand
in the order in which the record is documented; what is not set is written as null.
-/

set_option autoImplicit false

namespace Gatehouse

/-- A time stamp or null. -/
def Stamp.toJson? : Option Stamp → Json
  | none => .null
  | some t => .text t.text

/-- The identity as a number. -/
def RoleId.toJson (id : RoleId) : Json := .ofInt32 id.value

/-- The identity as a number. -/
def UserId.toJson (id : UserId) : Json := .ofInt32 id.value

/-- The identity as a number. -/
def GrantId.toJson (id : GrantId) : Json := .ofInt32 id.value

/-- The JSON form of a rule. -/
def Rule.toJson (r : Rule) : Json := .text r.word

/-- The JSON form of an owner. -/
def Owner.toJson : Owner → Json
  | .role id => .object [("role", id.toJson)]
  | .user id => .object [("user", id.toJson)]

/-- The JSON form of a tier. -/
def Tier.toJson (t : Tier) : Json := .text t.word

/-- The JSON form of a role. -/
def Role.toJson (r : Role) : Json := .object
  [("id", r.id.toJson),
   ("name", .text r.name),
   ("can_login", .bool r.flags.canLogin),
   ("is_admin", .bool r.flags.isAdmin),
   ("private_labels", .bool r.flags.privateLabels),
   ("public_profile_allowed_at", Stamp.toJson? r.publicProfileAt)]

/-- The JSON form of a link. -/
def Link.toJson (l : Link) : Json := .object
  [("user_id", l.user.toJson), ("role_id", l.role.toJson)]

/-- The JSON form of a grant. -/
def Grant.toJson (g : Grant) : Json := .object
  [("id", g.id.toJson),
   ("owner", g.owner.toJson),
   ("section", .text g.area),
   ("item", .ofText? g.item),
   ("item_id", .ofInt32? g.itemId),
   ("rule_type", g.rule.toJson),
   ("item_rule", .ofText? g.itemRule),
   ("action", .text g.action),
   ("extra", .ofText? g.extra),
   ("active", .bool g.active)]

/-- The JSON form of a line. -/
def GrantLine.toJson (l : GrantLine) : Json := .object
  [("section", .text l.area),
   ("item", .ofText? l.item),
   ("action", .text l.action),
   ("item_id", .ofInt32? l.itemId)]

/-- The JSON form of the template of a role. -/
def RoleTemplate.toJson (t : RoleTemplate) : Json := .object
  [("name", .text t.name),
   ("can_login", .bool t.canLogin),
   ("is_admin", .bool t.isAdmin),
   ("description", .text t.description),
   ("grants", .array (t.lines.map (·.toJson)))]

/-- The JSON form of a scenario. -/
def Scenario.toJson (s : Scenario) : Json := .object
  [("name", .text s.name),
   ("description", .text s.description),
   ("roles", .array (s.roles.map (·.toJson)))]

/-- The JSON form of a signature. -/
def Signature.toJson (s : Signature) : Json := .object
  [("section", .text s.area),
   ("item", .ofText? s.item),
   ("action", .text s.action),
   ("item_id", .ofInt32? s.itemId)]

/-- The JSON form of a reason. -/
def Reason.toJson : Reason → Json
  | .noMatch => .object [("kind", .text "no_matching_grant")]
  | .allowed tier => .object [("kind", .text "allowed"), ("tier", tier.toJson)]
  | .denied tier => .object [("kind", .text "denied"), ("tier", tier.toJson)]

/-- The JSON form of a decision. -/
def Decision.toJson (d : Decision) : Json := .object
  [("allowed", .bool d.allowed), ("reason", d.reason.toJson)]

end Gatehouse
