import Gatehouse.Check
import Gatehouse.Command.Basic
import Gatehouse.Record.Report

/-!
# Running commands

`Command.run` does what a command says and gives what is to be printed.  A command that fails prints
nothing.  The three commands that need no store have their answer from `Command.withoutStore`.
-/

set_option autoImplicit false

namespace Gatehouse

/-- What a command that did not fail has to say. -/
structure Reply where
  /-- What is printed. -/
  text : String
  /-- A check was answered with no. -/
  denied : Bool := false
deriving DecidableEq, Repr

namespace Reply

/-- Some lines. -/
def ofLines (lines : List String) : Reply := ⟨String.join (lines.map (· ++ "\n")), false⟩

/-- A value in JSON, over several lines. -/
def ofJson (v : Json) : Reply := ofLines [v.pretty]

/-- The exit code. -/
def exitCode (r : Reply) : Nat := if r.denied then Error.forbidden.exitCode else 0

end Reply

/-- A text filled up with spaces to a width in characters. -/
def padded (width : Nat) (s : String) : String :=
  s ++ String.ofList (List.replicate (width - s.length) ' ')

/-! ## The lines of a reply -/

/-- A scenario in a list. -/
def Summary.lines (s : Summary) : List String :=
  [padded 20 s.name ++ " " ++ s.description,
   padded 20 "" ++ " roles: " ++ ", ".intercalate s.roles]

/-- The template of a role in full. -/
def RoleTemplate.textLines (t : RoleTemplate) : List String :=
  ["", "Role " ++ t.name ++ " (can_login=" ++ truthText t.canLogin ++ ", is_admin=" ++
    truthText t.isAdmin ++ ")"] ++
  (if t.description.isEmpty then [] else ["  " ++ t.description]) ++
  t.lines.map fun l => "  - " ++ l.text

/-- A scenario in full. -/
def Scenario.textLines (s : Scenario) : List String :=
  (s.name ++ ": " ++ s.description) :: s.roles.flatMap (·.textLines)

/-- The difference of a role. -/
def RoleDifference.textLines (d : RoleDifference) : List String :=
  if d.isEmpty then [d.role ++ ": no changes"]
  else
    (d.role ++ if d.isNew then ": new role" else ":") ::
      (d.flags.map (fun c => "  ~ " ++ c.text) ++ d.additions.map (fun s => "  + " ++ s.text) ++
        d.removals.map (fun s => "  - " ++ s.text) ++ d.rules.map (fun c => "  * " ++ c.text))

/-- What changes for a user. -/
def UserChange.textLines (c : UserChange) : List String :=
  ("user " ++ c.user.text ++ ":") ::
    (c.add.map ("  + " ++ ·) ++ c.remove.map ("  - " ++ ·))

/-- A report on synchronising. -/
def SyncReport.textLines (r : SyncReport) : List String :=
  (if r.changes.isEmpty then [r.scenario ++ ": no changes"] else []) ++
    r.changes.flatMap (·.textLines) ++
    if r.dryRun then ["(dry run, nothing changed)"] else []

/-- A pair of roles. -/
def InclusionPair.textLine (p : InclusionPair) : String := p.includer ++ " includes " ++ p.included

/-- A permission in a list. -/
def Permission.textLine (p : Permission) : String :=
  padded 14 p.area ++ " " ++ padded 18 (if p.item.isEmpty then "*" else p.item) ++ " " ++
    padded 8 p.action ++ " " ++ p.description

/-- A decision on a request. -/
def Decision.textLine (d : Decision) (request : Request) : String :=
  (if d.allowed then "allow " else "deny ") ++ request.text ++ ": " ++ d.reason.text

/-- An export; the text of a JSON export has no line end of its own. -/
def exportReply (text : String) : ExportFormat → Reply
  | .json => ⟨text ++ "\n", false⟩
  | .csv => ⟨text, false⟩

/-! ## Running -/

/-- The list of known permissions. -/
def permissionsReply (json : Bool) : Reply :=
  if json then .ofJson (.array ((Permission.byArea Permission.all).map (·.toJson)))
  else .ofLines (Permission.all.map (·.textLine))

namespace Command

/-- The answer to a command that needs no store. -/
def withoutStore (l : Library) : Command → Option (Except Error Reply)
  | .listScenarios => some (.ok (.ofLines (l.summaries.flatMap (·.lines))))
  | .explain name => some ((l.get name).map fun s => .ofLines s.textLines)
  | .listPermissions json => some (.ok (permissionsReply json))
  | _ => none

variable {σ τ : Type}

/-- Who asks in a check: the roles given, else those of the user, else nobody. -/
def subject (b : Backend σ τ) (user : Option UserId) (roles : Option (List RoleId)) :
    Action σ Subject :=
  match user, roles with
  | user, some roles => pure ⟨roles, user⟩
  | some user, none => b.subjectOf user
  | none, none => pure {}

/-- A role that a user is given or loses, by its name. -/
def roleNamed (b : Backend σ τ) (name : String) : Action σ Role := do
  Action.require (.roleNamed name) (← b.roleNamed name)

/-- Does what a command says. -/
def run (b : Backend σ τ) (l : Library) (runName : String) : Command → Action σ Reply
  | .listScenarios => return .ofLines (l.summaries.flatMap (·.lines))
  | .explain name => return .ofLines (← Action.lift (l.get name)).textLines
  | .listPermissions json => return permissionsReply json
  | .apply name => return .ofJson (← b.apply l runName name).toJson
  | .reset scenario role => return .ofJson (← b.resetRole l runName scenario role).toJson
  | .diff name => return .ofLines ((← b.diff l name).flatMap (·.textLines))
  | .inspect name => return .ofJson (← b.inspect name).toJson
  | .matrix => return .ofLines ((← b.matrix).map (·.textLine))
  | .exportRole name format => return exportReply (← b.exportText name format) format
  | .assign user name => do
    let role ← roleNamed b name
    let added ← b.assign user role.id
    return .ofLines [user.text ++ " -> " ++ name ++ if added then "" else " (already assigned)"]
  | .revoke user name => do
    let role ← roleNamed b name
    let removed ← b.revoke user role.id
    return .ofLines [user.text ++ " -x " ++ name ++ if removed then "" else " (not assigned)"]
  | .purge area item itemId dryRun => return .ofJson (← b.purge area item itemId dryRun).toJson
  | .sync name dryRun => return .ofLines (← b.sync l name dryRun).textLines
  | .check user roles request => do
    let decision ← b.check (← subject b user roles) request
    return { Reply.ofLines [decision.textLine request] with denied := !decision.allowed }

end Command

end Gatehouse
