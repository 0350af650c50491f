import Gatehouse.Command.Usage
import Gatehouse.Export.Basic
import Gatehouse.Grant.Request

/-!
# Commands

What can be done from the command line, and how the words for it are read.  `Command.menu` lists
the commands by group with the form of their arguments; `Command.read` reads a whole line.
-/

set_option autoImplicit false

namespace Gatehouse

/-- Something to be done from the command line. -/
inductive Command where
  /-- Lists the scenarios. -/
  | listScenarios
  /-- Shows a scenario. -/
  | explain (scenario : String)
  /-- Applies a scenario. -/
  | apply (scenario : String)
  /-- Compares a scenario with the store. -/
  | diff (scenario : String)
  /-- Applies a single role of a scenario. -/
  | reset (scenario role : String)
  /-- Shows everything about a role. -/
  | inspect (role : String)
  /-- Exports a role. -/
  | exportRole (role : String) (format : ExportFormat)
  /-- Lets a user hold a role. -/
  | assign (user : UserId) (role : String)
  /-- Takes a role from a user. -/
  | revoke (user : UserId) (role : String)
  /-- Lists which role includes which. -/
  | matrix
  /-- Lists the known permissions. -/
  | listPermissions (json : Bool)
  /-- Removes the grants on an instance of an item. -/
  | purge (area item : String) (itemId : Int32) (dryRun : Bool)
  /-- Moves the users to the roles of a scenario. -/
  | sync (scenario : String) (dryRun : Bool)
  /-- Checks a permission for a user, for some roles, or for nobody. -/
  | check (user : Option UserId) (roles : Option (List RoleId)) (request : Request)
deriving DecidableEq, Repr

namespace Command

/-! ## Arguments -/

/-- The value of an argument that may be left open with a star. -/
def openText (s : String) : Option String := if s = "*" then none else some s

/-- The number of an argument that may be left open with a star. -/
def openNumber? (s : String) : Option (Option Int32) :=
  if s = "*" then some none else (readInt32 s).map some

/-- The format that a word stands for. -/
def format? (s : String) : Option ExportFormat := (ExportFormat.read s).toOption

/-- Any text. -/
def anyText : Slot := {}

/-- A number of 32 bits. -/
def number : Slot := { accepts := fun s => (readInt32 s).isSome }

/-- A number of 32 bits or a star. -/
def openNumber : Slot := { accepts := fun s => (openNumber? s).isSome }

/-- A format, which may be left out. -/
def format : Slot := { accepts := fun s => (format? s).isSome, required := false }

/-- An option without a value. -/
def flag (name : String) : Switch := { name := name }

/-- An option with a number. -/
def numberSwitch (name : String) (many : Bool) : Switch :=
  { name := name, value := some fun s => (readInt32 s).isSome, many := many }

/-! ## Making commands from arguments -/

/-- The command for exactly one positional argument. -/
def fromOne (make : String → Command) (a : Arguments) : Option Command :=
  match a.slots with
  | [x] => some (make x)
  | _ => none

/-- The command for exactly two positional arguments. -/
def fromTwo (make : String → String → Option Command) (a : Arguments) : Option Command :=
  match a.slots with
  | [x, y] => make x y
  | _ => none

/-- The command for a user and a role. -/
def onUser (make : UserId → String → Command) (user role : String) : Option Command :=
  (readInt32 user).map fun n => make ⟨n⟩ role

/-- The command that exports a role. -/
def exportOf (a : Arguments) : Option Command :=
  match a.slots with
  | [role] => some (.exportRole role .json)
  | [role, format] => (format? format).map (.exportRole role)
  | _ => none

/-- The command that cleans up. -/
def purgeOf (a : Arguments) : Option Command :=
  match a.slots with
  | [area, item, itemId] => (readInt32 itemId).map fun n => .purge area item n (a.has "dry-run")
  | _ => none

/-- The command that checks a permission. -/
def checkOf (a : Arguments) : Option Command :=
  match a.slots with
  | [area, item, itemId, action] => do
    let itemId ← openNumber? itemId
    let user := (a.value? "user").bind readInt32
    let roles := (a.values? "roles").map fun ns => (ns.filterMap readInt32).map RoleId.mk
    return .check (user.map .mk) roles ⟨area, openText item, itemId, action⟩
  | _ => none

/-! ## The menu -/

/-- The commands about scenarios. -/
def scenarioMenu : List (Entry Command) :=
  [.leaf "list" {} fun _ => some .listScenarios,
   .leaf "explain" { slots := [anyText] } (fromOne .explain),
   .leaf "apply" { slots := [anyText] } (fromOne .apply),
   .leaf "diff" { slots := [anyText] } (fromOne .diff),
   .leaf "reset" { slots := [anyText, anyText] } (fromTwo fun s r => some (.reset s r))]

/-- The commands about roles. -/
def roleMenu : List (Entry Command) :=
  [.leaf "inspect" { slots := [anyText] } (fromOne .inspect),
   .leaf "export" { slots := [anyText, format] } exportOf,
   .leaf "assign" { slots := [number, anyText] } (fromTwo (onUser .assign)),
   .leaf "revoke" { slots := [number, anyText] } (fromTwo (onUser .revoke)),
   .leaf "matrix" {} fun _ => some .matrix]

/-- The commands about grants. -/
def grantMenu : List (Entry Command) :=
  [.leaf "list-available" { switches := [flag "json"] } fun a =>
     some (.listPermissions (a.has "json")),
   .leaf "purge-scope" { slots := [anyText, anyText, number], switches := [flag "dry-run"] }
     purgeOf]

/-- The commands about users. -/
def userMenu : List (Entry Command) :=
  [.group "roles"
    [.leaf "sync" { slots := [anyText], switches := [flag "dry-run"] } fun a =>
      fromOne (fun s => .sync s (a.has "dry-run")) a]]

/-- The form of a check. -/
def checkForm : Leaf where
  slots := [anyText, anyText, openNumber, anyText]
  switches := [numberSwitch "user" false, numberSwitch "roles" true]

/-- All commands. -/
def menu : List (Entry Command) :=
  [.group "template" scenarioMenu, .group "role" roleMenu, .group "grant" grantMenu,
   .group "user" userMenu, .leaf "check" checkForm checkOf]

/-- Reads a command line. -/
def read (words : List String) : Except Usage Command := Entry.read true menu words

/-- All commands, a line each. -/
def overview : String := String.join ((Entry.pathsOf menu).map (· ++ "\n"))

end Command

end Gatehouse
