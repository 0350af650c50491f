import Gatehouse.Grant.Management
import Gatehouse.Inclusion
import Gatehouse.Permission
import Gatehouse.Record.Writer
import Gatehouse.Template.Apply
import Gatehouse.Template.Difference
import Gatehouse.Template.Sync

/-!
# Writing reports

The JSON form of what the operations of this library report about their work.  The members of each
object stand in the order in which the report is documented.
-/

set_option autoImplicit false

namespace Gatehouse

/-- The JSON form of a report on a clean-up. -/
def PurgeReport.toJson (r : PurgeReport) : Json := .object
  [("dry_run", .bool r.dryRun),
   ("deleted", .array (r.deleted.map (·.toJson))),
   ("skipped", .array (r.skipped.map (·.toJson))),
   ("failed", .array (r.failed.map (·.toJson))),
   ("participants", .array (r.participants.map (·.toJson)))]

/-- The JSON form of what became of a role. -/
def AppliedRole.toJson (a : AppliedRole) : Json := .object
  [("name", .text a.name),
   ("id", a.id.toJson),
   ("outcome", .text a.outcome.word),
   ("grants_before", .ofCount a.grantsBefore),
   ("grants_after", .ofCount a.grantsAfter)]

/-- The JSON form of a role at a moment. -/
def Snapshot.toJson (s : Snapshot) : Json := .object
  [("name", .text s.name),
   ("role", match s.role with
     | none => .null
     | some role => role.toJson),
   ("grants", .array (s.grants.map (·.toJson)))]

/-- The JSON form of a report on applying a scenario. -/
def ApplyReport.toJson (r : ApplyReport) : Json := .object
  [("run_id", .text r.run),
   ("scenario", .text r.scenario),
   ("roles", .array (r.roles.map (·.toJson))),
   ("before", .array (r.before.map (·.toJson))),
   ("after", .array (r.after.map (·.toJson)))]

/-- The JSON form of a change of a flag. -/
def FlagChange.toJson : FlagChange → Json
  | .canLogin old new => .object
    [("property", .text "can_login"), ("from", .bool old), ("to", .bool new)]
  | .isAdmin old new => .object
    [("property", .text "is_admin"), ("from", .bool old), ("to", .bool new)]

/-- The JSON form of a change of a rule. -/
def RuleChange.toJson (c : RuleChange) : Json := .object
  [("signature", c.signature.toJson),
   ("rule_type", c.rule.toJson),
   ("active", .bool c.active)]

/-- The JSON form of the difference of a role. -/
def RoleDifference.toJson (d : RoleDifference) : Json := .object
  [("role", .text d.role),
   ("is_new", .bool d.isNew),
   ("property_changes", .array (d.flags.map (·.toJson))),
   ("additions", .array (d.additions.map (·.toJson))),
   ("removals", .array (d.removals.map (·.toJson))),
   ("rule_changes", .array (d.rules.map (·.toJson)))]

/-- The JSON form of what changes for a user. -/
def UserChange.toJson (c : UserChange) : Json := .object
  [("user_id", c.user.toJson), ("add", .ofTexts c.add), ("remove", .ofTexts c.remove)]

/-- The JSON form of a report on synchronising. -/
def SyncReport.toJson (r : SyncReport) : Json := .object
  [("scenario", .text r.scenario),
   ("dry_run", .bool r.dryRun),
   ("changes", .array (r.changes.map (·.toJson)))]

/-- The JSON form of everything about a role. -/
def Inspection.toJson (i : Inspection) : Json := .object
  [("role", i.role.toJson),
   ("users", .array (i.users.map (·.toJson))),
   ("grants", .array (i.grants.map (·.toJson))),
   ("includes", .ofTexts i.includes)]

/-- The JSON form of a pair of roles. -/
def InclusionPair.toJson (p : InclusionPair) : Json := .object
  [("includer", .text p.includer), ("included", .text p.included)]

/-- The JSON form of a scenario in short. -/
def Summary.toJson (s : Summary) : Json := .object
  [("name", .text s.name), ("description", .text s.description), ("roles", .ofTexts s.roles)]

namespace Permission

/-- The JSON form of a permission on its own. -/
def toJson (p : Permission) : Json := .object
  [("section", .text p.area),
   ("item", .text p.item),
   ("action", .text p.action),
   ("description", .text p.description)]

/-- The JSON form of a permission inside its group. -/
def actionJson (p : Permission) : Json := .object
  [("action", .text p.action), ("description", .text p.description)]

/-- The JSON form of the permissions for one kind of item. -/
def ItemGroup.toJson (g : ItemGroup) : Json := .object
  [("item", .text g.item), ("actions", .array (g.permissions.map actionJson))]

/-- The JSON form of the permissions of one section. -/
def AreaGroup.toJson (g : AreaGroup) : Json := .object
  [("section", .text g.area), ("items", .array (g.items.map (·.toJson)))]

end Permission

end Gatehouse
