import Gatehouse.Error
import Gatehouse.Scenario.BuiltIn
import Gatehouse.Table

/-!
# Libraries of scenarios

A library keeps scenarios by name.  A scenario gets in only if nothing is wrong with it, and takes
the place of the one that had its name; merging lays a second library over a first one.
-/

set_option autoImplicit false

namespace Gatehouse

open Std

/-- Scenarios are kept by name. -/
def Scenario.byName : Scenario → Scenario → Ordering := compareOn Scenario.name

instance : TransCmp Scenario.byName := inferInstanceAs (TransCmp (compareOn _))

/-- Scenarios by name. -/
structure Library where
  /-- The scenarios, one a name. -/
  scenarios : Table Scenario.byName
deriving DecidableEq

/-- Complains about a scenario if anything is wrong with it. -/
def Scenario.check (s : Scenario) : Except Error Unit :=
  match s.problems with
  | [] => .ok ()
  | problems => .error (.validation (.scenario s.name problems))

namespace Library

/-- No scenarios. -/
def empty : Library := ⟨.empty⟩

instance : Inhabited Library := ⟨empty⟩

/-- The scenarios that come with the program. -/
def builtIn : Library := ⟨.ofList Scenario.builtIn⟩

/-- Takes a scenario in, if nothing is wrong with it. -/
def insert (l : Library) (s : Scenario) : Except Error Library := do
  s.check
  return ⟨l.scenarios.insert s⟩

/-- Takes scenarios in one after the other, up to the first that something is wrong with. -/
def insertAll (l : Library) (ss : List Scenario) : Except Error Library := ss.foldlM insert l

/-- Lays a second library over the first: of two scenarios with one name the second one stays. -/
def merge (l other : Library) : Library := ⟨other.scenarios.rows.foldl Table.insert l.scenarios⟩

/-- The scenario with a name, if there is one. -/
def find? (l : Library) (name : String) : Option Scenario :=
  l.scenarios.find? (·.name == name)

/-- The scenario with a name. -/
def get (l : Library) (name : String) : Except Error Scenario :=
  match l.find? name with
  | some s => .ok s
  | none => .error (.notFound (.scenario name))

/-- The scenarios in the order of their names. -/
def toList (l : Library) : List Scenario := l.scenarios.rows

/-- The names, in order. -/
def names (l : Library) : List String := l.toList.map (·.name)

/-- The number of scenarios. -/
def size (l : Library) : Nat := l.scenarios.size

/-- There are no scenarios. -/
def isEmpty (l : Library) : Bool := l.toList.isEmpty

end Library

/-- A scenario in short. -/
structure Summary where
  /-- The name. -/
  name : String
  /-- The description. -/
  description : String
  /-- The names of its roles. -/
  roles : List String
deriving DecidableEq, Repr

/-- A scenario in short. -/
def Scenario.summary (s : Scenario) : Summary := ⟨s.name, s.description, s.roles.map (·.name)⟩

/-- The scenarios of a library in short, in the order of their names. -/
def Library.summaries (l : Library) : List Summary := l.toList.map Scenario.summary

end Gatehouse
