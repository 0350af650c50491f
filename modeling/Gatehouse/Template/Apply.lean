import Gatehouse.Scenario.Library
import Gatehouse.Store.Backend

/-!
# Applying scenarios

A scenario is applied in one transaction.  Each of its roles is created, or gets its flags set if
there is a role with its name; then the grants of the role are replaced by those of its lines.  As
soon as anything fails the transaction is dropped, so that either all roles are as the scenario says
or nothing has changed.  A scenario that is not valid is refused before a transaction is opened.

The report tells for each role whether it was created and shows it before and after.
-/

set_option autoImplicit false

namespace Gatehouse

/-- Whether a role was there when a scenario was applied. -/
inductive Outcome where
  | created
  | updated
deriving DecidableEq, Repr

/-- The word for an outcome. -/
def Outcome.word : Outcome → String
  | .created => "created"
  | .updated => "updated"

/-- What became of a role. -/
structure AppliedRole where
  /-- Its name. -/
  name : String
  /-- Its identity. -/
  id : RoleId
  /-- Whether it was there. -/
  outcome : Outcome
  /-- The number of its grants before. -/
  grantsBefore : Nat
  /-- The number of its grants after. -/
  grantsAfter : Nat
deriving DecidableEq, Repr

/-- A role at a moment; `role` is `none` if there was none. -/
structure Snapshot where
  /-- The name. -/
  name : String
  /-- The role. -/
  role : Option Role
  /-- Its grants, as listed. -/
  grants : List Grant
deriving DecidableEq, Repr

/-- What applying a scenario did. -/
structure ApplyReport where
  /-- The name of this run. -/
  run : String
  /-- The name of the scenario. -/
  scenario : String
  /-- What became of each role. -/
  roles : List AppliedRole
  /-- Each role before. -/
  before : List Snapshot
  /-- Each role after. -/
  after : List Snapshot
deriving DecidableEq, Repr

/-- What applying one role did. -/
structure RoleStep where
  /-- What became of the role. -/
  applied : AppliedRole
  /-- The role before. -/
  before : Snapshot
  /-- The role after. -/
  after : Snapshot
deriving DecidableEq, Repr

/-- The report on a run with these steps. -/
def ApplyReport.ofSteps (run scenario : String) (steps : List RoleStep) : ApplyReport :=
  ⟨run, scenario, steps.map (·.applied), steps.map (·.before), steps.map (·.after)⟩

namespace Transaction

variable {τ : Type}

/-- Creates the role of a template or sets its flags; gives the role and what was there before. -/
def settleRole (t : Transaction τ) (template : RoleTemplate) : Action τ (Role × Snapshot) := do
  match ← t.roleNamed template.name with
  | some existing =>
    let grants ← t.grantsOfRole existing.id
    let updated ← t.setFlags existing.id template.flags
    return (updated, ⟨template.name, some existing, grants⟩)
  | none =>
    let created ← t.insertRole { name := template.name, flags := template.flags }
    return (created, ⟨template.name, none, []⟩)

/-- Stores a grant for each line. -/
def insertLines (t : Transaction τ) (role : RoleId) : List GrantLine → Action τ Unit
  | [] => pure ()
  | line :: rest => do
    let _ ← t.insertGrant (line.draft role)
    t.insertLines role rest

/-- Makes a role what its template says. -/
def applyRole (t : Transaction τ) (template : RoleTemplate) : Action τ RoleStep := do
  let (role, before) ← t.settleRole template
  let _ ← t.clearRole role.id
  t.insertLines role.id template.lines
  let grants ← t.grantsOfRole role.id
  let outcome := if before.role.isNone then Outcome.created else Outcome.updated
  return ⟨⟨template.name, role.id, outcome, before.grants.length, grants.length⟩, before,
    ⟨template.name, some role, grants⟩⟩

/-- Makes roles what their templates say, one after the other. -/
def applyRoles (t : Transaction τ) : List RoleTemplate → Action τ (List RoleStep)
  | [] => pure []
  | template :: rest => do
    let step ← t.applyRole template
    return step :: (← t.applyRoles rest)

end Transaction

namespace Backend

variable {σ τ : Type}

/-- Does something in a transaction, which is committed if it succeeds and dropped if it fails. -/
def inTransaction {α : Type} (b : Backend σ τ) (work : Action τ α) : Action σ α := do
  let opened ← b.begin
  match work opened with
  | (.error e, _) => throw e
  | (.ok result, done) =>
    b.commit done
    return result

/-- Applies some roles of a scenario in one transaction. -/
def applySome (b : Backend σ τ) (run : String) (s : Scenario) (templates : List RoleTemplate) :
    Action σ ApplyReport := do
  Action.lift s.check
  let steps ← b.inTransaction (b.within.applyRoles templates)
  return .ofSteps run s.name steps

/-- Applies a scenario. -/
def applyScenario (b : Backend σ τ) (run : String) (s : Scenario) : Action σ ApplyReport :=
  b.applySome run s s.roles

/-- Applies the scenario with a name. -/
def apply (b : Backend σ τ) (l : Library) (run name : String) : Action σ ApplyReport := do
  b.applyScenario run (← Action.lift (l.get name))

/-- Applies a single role of a scenario. -/
def resetRole (b : Backend σ τ) (l : Library) (run scenario role : String) :
    Action σ ApplyReport := do
  let s ← Action.lift (l.get scenario)
  let template ← Action.require (.roleOfScenario role s.name) (s.role? role)
  b.applySome run s [template]

end Backend

end Gatehouse
