import Gatehouse.Export.Csv
import Gatehouse.Grant.Form
import Gatehouse.Json.Writer
import Gatehouse.Permission
import Gatehouse.Record.Writer
import Gatehouse.Store.Backend
import Gatehouse.Text.Truth

/-!
# Exporting a role

An export shows the grants of a role by scope, held against the list of known permissions.  A scope
is a section with an item and an instance, as far as the grant is narrowed.  For each scope in which
the role has a grant it tells the actions the role has, those it has been denied or that are not in
force, and those it could still be granted.

Exports are written as JSON, or as comma-separated values with a line for each scope.
-/

set_option autoImplicit false

namespace Gatehouse

open Std

/-- The formats of an export. -/
inductive ExportFormat where
  | json
  | csv
deriving DecidableEq, Repr

/-- The word for a format. -/
def ExportFormat.word : ExportFormat → String
  | .json => "json"
  | .csv => "csv"

/-- The format that a word stands for. -/
def ExportFormat.read (s : String) : Except Error ExportFormat :=
  let word := typedWord s
  if word = "json" then .ok .json
  else if word = "csv" then .ok .csv
  else .error (.validation (.unknownFormat word))

/-! ## Scopes and groups -/

/-- The scope of a grant, as far as it is narrowed. -/
structure GroupKey where
  /-- The section of the site. -/
  area : String
  /-- The kind of item. -/
  item : Option String
  /-- The instance. -/
  itemId : Option Int32
deriving DecidableEq, Repr

/-- Scopes are listed by section, item, instance; an unset part comes first. -/
def GroupKey.order : GroupKey → GroupKey → Ordering :=
  compareLex (compareOn GroupKey.area) <|
    compareLex (compareOn GroupKey.item) (compareOn GroupKey.itemId)

instance : TransCmp GroupKey.order := inferInstanceAs (TransCmp (compareLex _ _))

instance : LawfulEqCmp GroupKey.order where
  eq_of_compare {a b} h := by
    simp only [GroupKey.order, compareLex_eq_eq, compareOn,
      LawfulEqCmp.compare_eq_iff_eq] at h
    obtain ⟨h1, h2, h3⟩ := h
    cases a; cases b
    simp_all

/-- The scope that terms are about. -/
def Terms.groupKey (t : Terms) : GroupKey := ⟨t.area, t.item, t.itemId⟩

/-- An action in an export. -/
structure ExportAction where
  /-- The action. -/
  action : String
  /-- The list of permissions does not know the action in its scope. -/
  unsupported : Bool
deriving DecidableEq, Repr

/-- The actions of a role in one scope. -/
structure GrantGroup where
  /-- The scope. -/
  key : GroupKey
  /-- The actions the role has. -/
  held : List ExportAction
  /-- The actions that are denied or not in force. -/
  disabled : List ExportAction
  /-- The known actions that the role has no grant for. -/
  available : List ExportAction
  /-- The list of permissions does not know the section with the item. -/
  unsupported : Bool
deriving DecidableEq, Repr

/-- The grants of a role by scope. -/
structure RoleExport where
  /-- The identity of the role. -/
  id : RoleId
  /-- Its name. -/
  name : String
  /-- Its flags. -/
  flags : RoleFlags
  /-- The scopes, in order. -/
  groups : List GrantGroup
deriving DecidableEq, Repr

/-- The terms give the role an action. -/
def Terms.gives (t : Terms) : Bool := t.active && t.rule == .allow

/-- The actions of grants, each once, in the order in which they first occur. -/
def distinctActions (grants : List Grant) : List String := (grants.map (·.action)).eraseDups

namespace GroupKey

/-- The actions as shown in an export of the scope. -/
def mark (k : GroupKey) (actions : List String) : List ExportAction :=
  actions.map fun a => ⟨a, !Permission.knows k.area k.item a⟩

/-- The group of a scope, from the grants in it. -/
def group (k : GroupKey) (grants : List Grant) : GrantGroup :=
  let has := distinctActions (grants.filter (·.gives))
  let lacks := distinctActions (grants.filter fun g => !g.gives)
  let rest := (Permission.actionsOn k.area k.item).filter fun a => a ∉ has && a ∉ lacks
  { key := k
    held := k.mark has
    disabled := k.mark lacks
    available := rest.map fun a => ⟨a, false⟩
    unsupported := !Permission.knowsItem k.area k.item }

end GroupKey

/-- The scopes that grants are in, in order and each once. -/
def groupKeys (grants : List Grant) : List GroupKey :=
  (Table.ofList (grants.map (·.groupKey)) : Table GroupKey.order).rows

/-- The export of a role with these grants. -/
def RoleExport.of (role : Role) (grants : List Grant) : RoleExport :=
  ⟨role.id, role.name, role.flags,
    (groupKeys grants).map fun k => k.group (grants.filter fun g => g.groupKey == k)⟩

/-! ## Writing an export -/

/-- The JSON form of an action. -/
def ExportAction.toJson (a : ExportAction) : Json := .object
  [("action", .text a.action), ("unsupported", .bool a.unsupported)]

/-- The JSON form of a group. -/
def GrantGroup.toJson (g : GrantGroup) : Json := .object
  [("section", .text g.key.area),
   ("item", .ofText? g.key.item),
   ("item_id", .ofInt32? g.key.itemId),
   ("have", .array (g.held.map (·.toJson))),
   ("disabled", .array (g.disabled.map (·.toJson))),
   ("available", .array (g.available.map (·.toJson))),
   ("unsupported", .bool g.unsupported)]

namespace RoleExport

/-- The JSON form of an export. -/
def toJson (e : RoleExport) : Json := .object
  [("id", e.id.toJson),
   ("name", .text e.name),
   ("can_login", .bool e.flags.canLogin),
   ("is_admin", .bool e.flags.isAdmin),
   ("private_labels", .bool e.flags.privateLabels),
   ("groups", .array (e.groups.map (·.toJson)))]

/-- The names of the columns. -/
def header : List String :=
  ["role_id", "role_name", "role_can_login", "role_is_admin", "role_private_labels", "section",
   "item", "item_id", "have", "disabled", "available", "unsupported"]

/-- The names of actions in a column. -/
def actionsField (actions : List ExportAction) : String :=
  (Json.ofTexts (actions.map (·.action))).compact

/-- The line of a group. -/
def record (e : RoleExport) (g : GrantGroup) : List String :=
  [e.id.text, e.name, truthText e.flags.canLogin, truthText e.flags.isAdmin,
   truthText e.flags.privateLabels, g.key.area, g.key.item.getD "",
   (g.key.itemId.map showInt32).getD "", actionsField g.held, actionsField g.disabled,
   actionsField g.available, truthText g.unsupported]

/-- The lines of an export. -/
def records (e : RoleExport) : List (List String) := header :: e.groups.map e.record

/-- The text of an export. -/
def render (e : RoleExport) : ExportFormat → String
  | .json => e.toJson.pretty
  | .csv => Csv.text e.records

end RoleExport

namespace Backend

variable {σ τ : Type}

/-- The export of the role with a name. -/
def exportRole (b : Backend σ τ) (name : String) : Action σ RoleExport := do
  let role ← Action.require (.roleNamed name) (← b.roleNamed name)
  return .of role (← b.grantsOfRole role.id)

/-- The text of the export of the role with a name. -/
def exportText (b : Backend σ τ) (name : String) (format : ExportFormat) : Action σ String := do
  return (← b.exportRole name).render format

end Backend

end Gatehouse
