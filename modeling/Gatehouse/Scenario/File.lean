import Gatehouse.Scenario.Library
import Gatehouse.Setting.File

/-!
# Files of scenarios

A settings file may define scenarios, in a list under the key `scenarios`.  Its values are loosely
typed, like all settings.  The scenarios of a file go into a library one after the other, under the
same conditions as any other scenario; `Library.load` lays them over the built-in ones.
-/

set_option autoImplicit false

namespace Gatehouse

open Setting

/-- Reads a line. -/
def GrantLine.ofSetting (s : Setting) : Except Fault GrantLine := do
  let l : Layout := ⟨"GrantDef", 4⟩
  return {
    area := ← l.take s (.required 0 "section" toText)
    item := ← l.take s (.defaulted 1 "item" (toOption toText) none)
    action := ← l.take s (.required 2 "action" toText)
    itemId := ← l.take s (.defaulted 3 "item_id" (toOption toInt32) none) }

/-- Reads the template of a role. -/
def RoleTemplate.ofSetting (s : Setting) : Except Fault RoleTemplate := do
  let l : Layout := ⟨"RoleDef", 5⟩
  return {
    name := ← l.take s (.required 0 "name" toText)
    canLogin := ← l.take s (.defaulted 1 "can_login" toBool false)
    isAdmin := ← l.take s (.defaulted 2 "is_admin" toBool false)
    description := ← l.take s (.defaulted 3 "description" toText "")
    lines := ← l.take s (.defaulted 4 "grants" (toList GrantLine.ofSetting) []) }

/-- Reads a scenario. -/
def Scenario.ofSetting (s : Setting) : Except Fault Scenario := do
  let l : Layout := ⟨"Scenario", 3⟩
  return {
    name := ← l.take s (.required 0 "name" toText)
    description := ← l.take s (.defaulted 1 "description" toText "")
    roles := ← l.take s (.required 2 "roles" (toList RoleTemplate.ofSetting)) }

/-- The scenarios that settings define. -/
def scenariosOf (s : Setting) : Except Fault (List Scenario) :=
  let l : Layout := ⟨"ScenarioFile", 1⟩
  l.take s (.defaulted 0 "scenarios" (toList Scenario.ofSetting) [])

namespace Library

/-- The library of the scenarios in a file. -/
def ofFile (files : Files) (path : String) : Except Error Library := do
  let scenarios ← (do scenariosOf (← Setting.ofFile files path)).mapError Error.config
  empty.insertAll scenarios

/-- The built-in scenarios, with those of a file laid over them if there is one. -/
def load (files : Files) : Option String → Except Error Library
  | none => .ok builtIn
  | some path => (ofFile files path).map builtIn.merge

end Library

end Gatehouse
