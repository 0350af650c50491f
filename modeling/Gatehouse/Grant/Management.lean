import Gatehouse.Grant.Form
import Gatehouse.Store.Backend

/-!
# Managing grants

Creating, finding, removing and switching single grants, where what is not there is an error, and
cleaning up after a resource of the site is gone.

`Backend.purge` removes the grants on one instance of an item, one by one and without a transaction:
a grant that cannot be removed is reported and does not keep the others.  Its report sorts the
grants that were found into removed, already gone and failed.
-/

set_option autoImplicit false

namespace Gatehouse

/-- What a clean-up did, or would do. -/
structure PurgeReport where
  /-- Nothing was removed, only planned. -/
  dryRun : Bool
  /-- The grants removed, or planned to be. -/
  deleted : List GrantId := []
  /-- The grants that were gone when their turn came. -/
  skipped : List GrantId := []
  /-- The grants that could not be removed. -/
  failed : List GrantId := []
  /-- The users who held one of the grants found, in order. -/
  participants : List UserId := []
deriving DecidableEq, Repr

namespace Backend

variable {σ τ : Type}

/-- Stores the grant that a form asks for. -/
def addGrant (b : Backend σ τ) (form : GrantForm) : Action σ GrantId := do
  b.createGrant (← Action.lift form.draft)

/-- The grant with an identity. -/
def findGrant (b : Backend σ τ) (id : GrantId) : Action σ Grant := do
  Action.require (.grant id) (← b.grant id)

/-- Removes a grant. -/
def removeGrant (b : Backend σ τ) (id : GrantId) : Action σ Unit := do
  if !(← b.deleteGrant id) then throw (.notFound (.grant id))

/-- Puts a grant in or out of force. -/
def switchGrant (b : Backend σ τ) (id : GrantId) (active : Bool) : Action σ Unit := do
  if !(← b.setActive id active) then throw (.notFound (.grant id))

/-- The users among the owners of grants, in order and each once. -/
def userOwners (grants : List Grant) : List UserId :=
  (Table.ofList (grants.filterMap (·.owner.user?)) : Table (compare (α := UserId))).rows

/-- Removes the grants that are left, and adds to the report what became of each. -/
def purgeEach (b : Backend σ τ) : List Grant → PurgeReport → Action σ PurgeReport
  | [], report => pure report
  | g :: rest, report => do
    let report ←
      try
        if ← b.deleteGrant g.id then
          pure { report with deleted := report.deleted ++ [g.id] }
        else pure { report with skipped := report.skipped ++ [g.id] }
      catch _ => pure { report with failed := report.failed ++ [g.id] }
    b.purgeEach rest report

/-- Removes the grants on an instance of an item, or tells which ones these are. -/
def purge (b : Backend σ τ) (area item : String) (itemId : Int32) (dryRun : Bool) :
    Action σ PurgeReport := do
  let grants ← b.grantsIn (.single area item itemId)
  let report : PurgeReport := { dryRun := dryRun, participants := userOwners grants }
  if dryRun then return { report with deleted := grants.map (·.id) }
  b.purgeEach grants report

end Backend

end Gatehouse
