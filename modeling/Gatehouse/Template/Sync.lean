import Gatehouse.Scenario.Library
import Gatehouse.Store.Backend

/-!
# Moving users to the roles of a scenario

After a scenario has been applied, users may still hold roles that it does not know.  Synchronising
moves them: a role of the scenario is kept, and any other role is exchanged for the role of the
scenario of the same class, provided that there is exactly one.  The class of a role of the
scenario is read off its template, that of any other role off its stored flags.

Each user gets the new roles before losing old ones, and users come in ascending order, so a run
that breaks off can be taken up again.
-/

set_option autoImplicit false

namespace Gatehouse

/-- What kind of people a role is for. -/
inductive RoleClass where
  | admin
  | member
  | anonymous
deriving DecidableEq, Repr

/-- The class by the two flags: who administers the site, else who may log in, else all others. -/
def RoleClass.of (isAdmin canLogin : Bool) : RoleClass :=
  if isAdmin then .admin else if canLogin then .member else .anonymous

/-- The class that a template says. -/
def RoleTemplate.roleClass (t : RoleTemplate) : RoleClass := .of t.isAdmin t.canLogin

/-- The class by the stored flags. -/
def Role.roleClass (r : Role) : RoleClass := .of r.flags.isAdmin r.flags.canLogin

/-- What changes for a user. -/
structure UserChange where
  /-- The user. -/
  user : UserId
  /-- The names of the roles gained, in order. -/
  add : List String
  /-- The names of the roles lost, in order. -/
  remove : List String
deriving DecidableEq, Repr

/-- Nothing changes. -/
def UserChange.isEmpty (c : UserChange) : Bool := c.add.isEmpty && c.remove.isEmpty

/-- What synchronising did, or would do. -/
structure SyncReport where
  /-- The name of the scenario. -/
  scenario : String
  /-- Nothing was changed, only planned. -/
  dryRun : Bool
  /-- The users for whom something changes. -/
  changes : List UserChange
deriving DecidableEq, Repr

/-- A set of names. -/
abbrev Names := Table (compare (α := String))

/-- The roles of a scenario, each with the stored role of its name. -/
abbrev KnownRoles := List (RoleTemplate × Role)

namespace KnownRoles

/-- The name of the role that a stored role is kept as or exchanged for. -/
def target? (known : KnownRoles) (r : Role) : Option String :=
  match known.find? fun p => p.2.id == r.id with
  | some (_, kept) => some kept.name
  | none =>
    match known.filter fun p => p.1.roleClass == r.roleClass with
    | [p] => some p.1.name
    | _ => none

/-- The identity of a role of the scenario. -/
def id? (known : KnownRoles) (name : String) : Option RoleId :=
  (known.find? fun p => p.2.name == name).map fun p => p.2.id

/-- What changes for a user who holds some roles. -/
def change (known : KnownRoles) (user : UserId) (held : List Role) : UserChange :=
  let current : Names := .ofList (held.map (·.name))
  let desired : Names := .ofList (held.filterMap known.target?)
  ⟨user, (desired.filter fun n => n ∉ current).rows, (current.filter fun n => n ∉ desired).rows⟩

end KnownRoles

/-- The users in a list of links, in order and each once. -/
def linkedUsers (links : List Link) : List UserId :=
  (Table.ofList (links.map (·.user)) : Table (compare (α := UserId))).rows

namespace Backend

variable {σ τ : Type}

/-- The stored roles with the names of the templates. -/
def knownRoles (b : Backend σ τ) (scenario : String) : List RoleTemplate → Action σ KnownRoles
  | [] => pure []
  | t :: rest => do
    let role ← Action.require (.roleNotApplied t.name scenario) (← b.roleNamed t.name)
    return (t, role) :: (← b.knownRoles scenario rest)

/-- Gives a user roles; names that mean nothing are passed over. -/
def assignAll (b : Backend σ τ) (user : UserId) (id? : String → Option RoleId) :
    List String → Action σ Unit
  | [] => pure ()
  | name :: rest => do
    match id? name with
    | some id =>
      let _ ← b.assign user id
    | none => pure ()
    b.assignAll user id? rest

/-- Takes roles from a user; names that mean nothing are passed over. -/
def revokeAll (b : Backend σ τ) (user : UserId) (id? : String → Option RoleId) :
    List String → Action σ Unit
  | [] => pure ()
  | name :: rest => do
    match id? name with
    | some id =>
      let _ ← b.revoke user id
    | none => pure ()
    b.revokeAll user id? rest

/-- Makes the change for a user. -/
def makeChange (b : Backend σ τ) (known : KnownRoles) (roles : Table Role.byId)
    (c : UserChange) : Action σ Unit := do
  b.assignAll c.user known.id? c.add
  b.revokeAll c.user (fun name => (roles.find? (·.name == name)).map (·.id)) c.remove

/-- Makes the changes for users, one after the other, and leaves out those who need none. -/
def syncUsers (b : Backend σ τ) (known : KnownRoles) (roles : Table Role.byId)
    (links : List Link) (dryRun : Bool) : List UserId → Action σ (List UserChange)
  | [] => pure []
  | user :: rest => do
    let held := (links.filter (·.user == user)).filterMap fun l => roles.find? (·.id == l.role)
    let c := known.change user held
    if c.isEmpty then b.syncUsers known roles links dryRun rest
    else do
      if !dryRun then b.makeChange known roles c
      return c :: (← b.syncUsers known roles links dryRun rest)

/-- Moves the users to the roles of a scenario, or tells what that would change. -/
def syncScenario (b : Backend σ τ) (s : Scenario) (dryRun : Bool) : Action σ SyncReport := do
  let known ← b.knownRoles s.name s.roles
  let roles : Table Role.byId := .ofList (← b.roles)
  let links ← b.links
  return ⟨s.name, dryRun, ← b.syncUsers known roles links dryRun (linkedUsers links)⟩

/-- Moves the users to the roles of the scenario with a name. -/
def sync (b : Backend σ τ) (l : Library) (name : String) (dryRun : Bool) :
    Action σ SyncReport := do
  b.syncScenario (← Action.lift (l.get name)) dryRun

end Backend

end Gatehouse
