import Gatehouse.Error
import Gatehouse.Text.Blank
import Gatehouse.Text.Lowercase

/-!
# Filling in grants

A grant asked for from outside comes as a `GrantForm`, with two fields for the owner and with every
combination of an item and an instance.  `GrantForm.draft` turns it into a draft or tells the first
thing that is wrong with it: the owner, then the section, the action, and an instance without an
item.  A draft says exactly what its form says.
-/

set_option autoImplicit false

namespace Gatehouse

/-- A word as a user types it, without the blanks around it and in lower case. -/
def typedWord (s : String) : String := lowercase (String.ofList (trimBlanks s.toList))

/-- The rule that a word stands for. -/
def Rule.read (s : String) : Except Error Rule :=
  let word := typedWord s
  if word = "allow" then .ok .allow
  else if word = "deny" then .ok .deny
  else .error (.validation (.unknownRule word))

/-- The owner named by exactly one of two fields. -/
def Owner.ofFields (role : Option RoleId) (user : Option UserId) : Except Error Owner :=
  match role, user with
  | some role, none => .ok (.role role)
  | none, some user => .ok (.user user)
  | some role, some user => .error (.validation (.twoOwners role user))
  | none, none => .error (.validation .noOwner)

/-- A grant as it is asked for. -/
structure GrantForm extends Terms where
  /-- The role that will hold it. -/
  role : Option RoleId := none
  /-- The user who will hold it. -/
  user : Option UserId := none
deriving DecidableEq, Repr

namespace GrantForm

/-- What the form says about the owner and the scope, without the remarks. -/
def bareDraft (f : GrantForm) (owner : Owner) : Except Error Draft :=
  let whole := ((Draft.new owner f.area f.action).withRule f.rule).inForce f.active
  match f.item, f.itemId with
  | some item, some id => .ok (whole.onInstance item id)
  | some item, none => .ok (whole.onItem item)
  | none, some id => .error (.validation (.instanceWithoutItem id))
  | none, none => .ok whole

/-- The draft that a form asks for. -/
def draft (f : GrantForm) : Except Error Draft := do
  let owner ← Owner.ofFields f.role f.user
  if allBlank f.area then throw (.validation .blankArea)
  if allBlank f.action then throw (.validation .blankAction)
  let d ← f.bareDraft owner
  let d := match f.itemRule with
    | none => d
    | some remark => d.withItemRule remark
  return match f.extra with
    | none => d
    | some remark => d.withExtra remark

end GrantForm

end Gatehouse
