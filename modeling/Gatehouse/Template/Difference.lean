import Gatehouse.Scenario.Library
import Gatehouse.Store.Backend
import Gatehouse.Text.Truth

/-!
# What applying a scenario would change

Before a scenario is applied it can be compared with the store, role by role.  A `RoleDifference`
tells which flags and which signatures would change, and which grants already have the signature of
a line but deny or are not in force, so that applying would turn them round.

Signatures are compared as sets; the lists are in the order of signatures.
-/

set_option autoImplicit false

namespace Gatehouse

/-- A flag of a role that would change. -/
inductive FlagChange where
  /-- Whether holders may log in. -/
  | canLogin (old new : Bool)
  /-- Whether holders administer the site. -/
  | isAdmin (old new : Bool)
deriving DecidableEq, Repr

/-- The change on one line. -/
def FlagChange.text : FlagChange → String
  | .canLogin old new => "can_login: " ++ truthText old ++ " -> " ++ truthText new
  | .isAdmin old new => "is_admin: " ++ truthText old ++ " -> " ++ truthText new

/-- A grant that denies or is not in force, and has the signature of a line. -/
structure RuleChange where
  /-- The signature. -/
  signature : Signature
  /-- What the grant does. -/
  rule : Rule
  /-- Whether it is in force. -/
  active : Bool
deriving DecidableEq, Repr

/-- The change on one line. -/
def RuleChange.text (c : RuleChange) : String :=
  c.signature.text ++ ": " ++ c.rule.word ++ " (" ++ (if c.active then "active" else "inactive") ++
    ") -> allow (active)"

/-- What applying the template of a role would change. -/
structure RoleDifference where
  /-- The name of the role. -/
  role : String
  /-- There is no role with that name. -/
  isNew : Bool
  /-- The flags that would change. -/
  flags : List FlagChange
  /-- The signatures the role would gain. -/
  additions : List Signature
  /-- The signatures the role would lose. -/
  removals : List Signature
  /-- The grants that would be turned round. -/
  rules : List RuleChange
deriving DecidableEq, Repr

/-- Applying would change nothing. -/
def RoleDifference.isEmpty (d : RoleDifference) : Bool :=
  !d.isNew && d.flags.isEmpty && d.additions.isEmpty && d.removals.isEmpty && d.rules.isEmpty

/-- The differences one a line, in the order flags, additions, removals, rules. -/
def RoleDifference.lines (d : RoleDifference) : List String :=
  d.flags.map (·.text) ++ d.additions.map (·.text) ++ d.removals.map (·.text) ++
    d.rules.map (·.text)

/-- A set of signatures. -/
abbrev Signatures := Table Signature.order

/-- The signatures of the one set that are not in the other. -/
def Signatures.without (a b : Signatures) : List Signature := (a.filter fun s => s ∉ b).rows

/-- The signatures of the lines of a template. -/
def RoleTemplate.signatures (t : RoleTemplate) : Signatures :=
  .ofList (t.lines.map (·.signature))

/-- The signatures of grants. -/
def signaturesOf (grants : List Grant) : Signatures := .ofList (grants.map (·.signature))

/-- The flags of a role that its template would change.  Private labels follow the right to log in
and are not told. -/
def flagChanges (t : RoleTemplate) (role : Role) : List FlagChange :=
  (if role.flags.canLogin = t.canLogin then []
    else [.canLogin role.flags.canLogin t.canLogin]) ++
  (if role.flags.isAdmin = t.isAdmin then []
    else [.isAdmin role.flags.isAdmin t.isAdmin])

/-- The grants that deny or are not in force although their signature is wanted. -/
def ruleChanges (wanted : Signatures) (grants : List Grant) : List RuleChange :=
  let changes := (grants.filter fun g => g.rule == .deny || !g.active).map fun g =>
    RuleChange.mk g.signature g.rule g.active
  sortBy (fun a b => Signature.order a.signature b.signature)
    (changes.filter fun c => c.signature ∈ wanted)

/-- The difference between a template and the role with its name, with the grants of the role. -/
def RoleTemplate.difference (t : RoleTemplate) (current : Option (Role × List Grant)) :
    RoleDifference :=
  let grants := (current.map (·.2)).getD []
  let wanted := t.signatures
  let existing := signaturesOf grants
  { role := t.name
    isNew := current.isNone
    flags := (current.map fun (role, _) => flagChanges t role).getD []
    additions := wanted.without existing
    removals := existing.without wanted
    rules := ruleChanges wanted grants }

namespace Backend

variable {σ τ : Type}

/-- The difference between a template and what is stored. -/
def differenceOf (b : Backend σ τ) (t : RoleTemplate) : Action σ RoleDifference := do
  match ← b.roleNamed t.name with
  | some role => return t.difference (some (role, ← b.grantsOfRole role.id))
  | none => return t.difference none

/-- The differences of templates, in their order. -/
def differences (b : Backend σ τ) : List RoleTemplate → Action σ (List RoleDifference)
  | [] => pure []
  | t :: rest => do
    let d ← b.differenceOf t
    return d :: (← b.differences rest)

/-- The differences of the roles of a scenario. -/
def diffScenario (b : Backend σ τ) (s : Scenario) : Action σ (List RoleDifference) :=
  b.differences s.roles

/-- The differences of the roles of the scenario with a name. -/
def diff (b : Backend σ τ) (l : Library) (name : String) : Action σ (List RoleDifference) := do
  b.diffScenario (← Action.lift (l.get name))

end Backend

end Gatehouse
