import Gatehouse.Proofs.Template.Run
import Gatehouse.Template.Difference

/-!
# How applying and comparing fail

`Action.FailsOnly E` says that an action fails, if it does, with one of the errors `E`.  Whatever
is put together from such actions is of the same kind, so what a backend can fail with tells what
applying a scenario to it, or comparing one with it, can fail with.  The two add only what they find
out before they turn to the backend: that there is no such scenario or role, or that the scenario is
not in order.
-/

set_option autoImplicit false

namespace Gatehouse

variable {σ τ α β : Type} {E : Error → Prop}

/-! ## Errors of a kind -/

namespace Action

/-- All the errors of the action are among `E`. -/
def FailsOnly (E : Error → Prop) (x : Action σ α) : Prop :=
  ∀ s e t, x.run s = (.error e, t) → E e

theorem failsOnly_pure (a : α) : (pure a : Action σ α).FailsOnly E := by
  intro s e t h
  cases h

theorem failsOnly_query (f : σ → α) : (query f).FailsOnly E := by
  intro s e t h
  cases h

theorem failsOnly_update (f : σ → α × σ) : (update f).FailsOnly E := by
  intro s e t h
  cases h

theorem failsOnly_require {absent : Absent} (h : E (.notFound absent)) (o : Option α) :
    (require absent o : Action σ α).FailsOnly E := by
  intro s e t hrun
  cases o <;> cases hrun
  exact h

theorem failsOnly_attempt {f : σ → Except Error (α × σ)} (hf : ∀ s e, f s = .error e → E e) :
    (attempt f).FailsOnly E := by
  intro s e t h
  rw [run_attempt] at h
  rcases hs : f s with e' | ⟨a, u⟩ <;> rw [hs] at h <;> cases h
  exact hf s e hs

theorem FailsOnly.bind {x : Action σ α} {f : α → Action σ β} (hx : x.FailsOnly E)
    (hf : ∀ a, (f a).FailsOnly E) : (x >>= f).FailsOnly E := by
  intro s e t h
  rw [run_bind] at h
  rcases hrun : x.run s with ⟨e' | a, u⟩ <;> rw [hrun] at h
  · cases h
    exact hx s e t hrun
  · exact hf a u e t h

/-- Going on with a result that may be an error fails with that error or later. -/
theorem failsOnly_lift_bind {r : Except Error α} {f : α → Action σ β}
    (hr : ∀ e, r = .error e → E e) (hf : ∀ a, r = .ok a → (f a).FailsOnly E) :
    (lift r >>= f).FailsOnly E := by
  intro s e t h
  rw [run_bind, run_lift] at h
  rcases r with e' | a
  · cases h
    exact hr e rfl
  · exact hf a rfl s e t h

end Action

open Gatehouse.Action

/-! ## In a transaction -/

/-- The calls of the transaction fail only with errors among `E`. -/
structure Transaction.FailsOnly (E : Error → Prop) (t : Transaction τ) : Prop where
  /-- Looking up a role by its name. -/
  roleNamed : ∀ name, (t.roleNamed name).FailsOnly E
  /-- Creating a role. -/
  insertRole : ∀ new, (t.insertRole new).FailsOnly E
  /-- Setting the flags of a role. -/
  setFlags : ∀ id flags, (t.setFlags id flags).FailsOnly E
  /-- Listing the grants of a role. -/
  grantsOfRole : ∀ id, (t.grantsOfRole id).FailsOnly E
  /-- Removing the grants of a role. -/
  clearRole : ∀ id, (t.clearRole id).FailsOnly E
  /-- Storing a grant. -/
  insertGrant : ∀ d, (t.insertGrant d).FailsOnly E

namespace Transaction.FailsOnly

variable {t : Transaction τ}

theorem settleRole (ht : t.FailsOnly E) (d : RoleTemplate) : (t.settleRole d).FailsOnly E := by
  refine (ht.roleNamed d.name).bind fun found => ?_
  cases found with
  | some existing =>
    exact (ht.grantsOfRole existing.id).bind fun _ =>
      (ht.setFlags existing.id d.flags).bind fun _ => failsOnly_pure _
  | none => exact (ht.insertRole _).bind fun _ => failsOnly_pure _

theorem insertLines (ht : t.FailsOnly E) (role : RoleId) (lines : List GrantLine) :
    (t.insertLines role lines).FailsOnly E := by
  induction lines with
  | nil => exact failsOnly_pure _
  | cons line rest ih => exact (ht.insertGrant (line.draft role)).bind fun _ => ih

theorem applyRole (ht : t.FailsOnly E) (d : RoleTemplate) : (t.applyRole d).FailsOnly E := by
  refine (ht.settleRole d).bind fun settled => ?_
  obtain ⟨role, before⟩ := settled
  exact (ht.clearRole role.id).bind fun _ => (ht.insertLines role.id d.lines).bind fun _ =>
    (ht.grantsOfRole role.id).bind fun _ => failsOnly_pure _

theorem applyRoles (ht : t.FailsOnly E) (ds : List RoleTemplate) :
    (t.applyRoles ds).FailsOnly E := by
  induction ds with
  | nil => exact failsOnly_pure _
  | cons d rest ih => exact (ht.applyRole d).bind fun _ => ih.bind fun _ => failsOnly_pure _

end Transaction.FailsOnly

/-! ## On a backend -/

/-- The calls with which scenarios are applied and compared fail only with errors among `E`. -/
structure Backend.FailsOnly (E : Error → Prop) (b : Backend σ τ) : Prop where
  /-- Looking up a role by its name. -/
  roleNamed : ∀ name, (b.roleNamed name).FailsOnly E
  /-- Listing the grants of a role. -/
  grantsOfRole : ∀ id, (b.grantsOfRole id).FailsOnly E
  /-- Opening a transaction. -/
  begin : b.begin.FailsOnly E
  /-- The calls of a transaction. -/
  within : b.within.FailsOnly E
  /-- Committing a transaction. -/
  commit : ∀ done, (b.commit done).FailsOnly E

namespace Backend.FailsOnly

variable {b : Backend σ τ} {l : Library}

theorem inTransaction (hb : b.FailsOnly E) {work : Action τ α} (hwork : work.FailsOnly E) :
    (b.inTransaction work).FailsOnly E := by
  intro s e t h
  rw [run_inTransaction] at h
  rcases hopen : b.begin.run s with ⟨e' | opened, s'⟩ <;> rw [hopen] at h <;> dsimp only at h
  · cases h
    exact hb.begin s e t hopen
  rcases hrun : work.run opened with ⟨e' | a, done⟩ <;> rw [hrun] at h <;> dsimp only at h
  · cases h
    exact hwork opened e done hrun
  rcases hcommit : (b.commit done).run s' with ⟨e' | ⟨⟩, u⟩ <;> rw [hcommit] at h <;> cases h
  exact hb.commit done s' e t hcommit

/-- Applying what is in order fails with what the backend fails with. -/
theorem applySome (hb : b.FailsOnly E) {sc : Scenario} (hcheck : sc.check = .ok ()) (run : String)
    (ds : List RoleTemplate) : (b.applySome run sc ds).FailsOnly E := by
  rw [Backend.applySome, hcheck]
  exact (failsOnly_pure ()).bind fun _ =>
    (hb.inTransaction (hb.within.applyRoles ds)).bind fun _ => failsOnly_pure _

/-- Besides, there may be no scenario with the name. -/
theorem apply (hb : b.FailsOnly E) {name : String} (hget : ∀ e, l.get name = .error e → E e)
    (hcheck : ∀ sc, l.get name = .ok sc → sc.check = .ok ()) (run : String) :
    (b.apply l run name).FailsOnly E :=
  failsOnly_lift_bind hget fun sc hsc => hb.applySome (hcheck sc hsc) run sc.roles

/-- Or the scenario may have no role with the name. -/
theorem resetRole (hb : b.FailsOnly E) {name : String} (hget : ∀ e, l.get name = .error e → E e)
    (hcheck : ∀ sc, l.get name = .ok sc → sc.check = .ok ()) {role : String}
    (hrole : ∀ scenario, E (.notFound (.roleOfScenario role scenario))) (run : String) :
    (b.resetRole l run name role).FailsOnly E := by
  refine failsOnly_lift_bind hget fun sc hsc => ?_
  exact (failsOnly_require (hrole sc.name) (sc.role? role)).bind fun d =>
    hb.applySome (hcheck sc hsc) run [d]

theorem differenceOf (hb : b.FailsOnly E) (d : RoleTemplate) : (b.differenceOf d).FailsOnly E := by
  refine (hb.roleNamed d.name).bind fun found => ?_
  cases found with
  | some role => exact (hb.grantsOfRole role.id).bind fun _ => failsOnly_pure _
  | none => exact failsOnly_pure _

theorem differences (hb : b.FailsOnly E) (ds : List RoleTemplate) :
    (b.differences ds).FailsOnly E := by
  induction ds with
  | nil => exact failsOnly_pure _
  | cons d rest ih => exact (hb.differenceOf d).bind fun _ => ih.bind fun _ => failsOnly_pure _

/-- Comparing fails with what the backend fails with, and if there is no such scenario. -/
theorem diff (hb : b.FailsOnly E) {name : String} (hget : ∀ e, l.get name = .error e → E e) :
    (b.diff l name).FailsOnly E :=
  failsOnly_lift_bind hget fun sc _ => hb.differences sc.roles

end Backend.FailsOnly

/-! ## Complaints about a scenario -/

/-- The error tells what is wrong with a scenario. -/
def Error.AboutScenario (e : Error) : Prop :=
  ∃ name problems, e = .validation (.scenario name problems)

theorem Error.not_aboutScenario_notFound (absent : Absent) :
    ¬(Error.notFound absent).AboutScenario := by
  rintro ⟨name, problems, h⟩
  cases h

theorem Transaction.failsOnly_memory (now : Stamp) :
    (Transaction.memory now).FailsOnly fun e => ¬e.AboutScenario where
  roleNamed _ := failsOnly_query _
  insertRole new := failsOnly_attempt fun s e h => by
    rw [Store.insertRole] at h
    rintro ⟨name, problems, rfl⟩
    split at h
    · cases h
    · split at h <;> cases h
  setFlags id flags := failsOnly_attempt fun s e h => by
    rw [Store.setFlags] at h
    split at h <;> cases h
    exact Error.not_aboutScenario_notFound _
  grantsOfRole _ := failsOnly_query _
  clearRole _ := failsOnly_update _
  insertGrant d := failsOnly_attempt fun s e h => by
    rw [Store.insertGrant] at h
    split at h <;> cases h
    exact Error.not_aboutScenario_notFound _

/-- The store itself has nothing to say about scenarios. -/
theorem Backend.failsOnly_memory (now : Stamp) :
    (Backend.memory now).FailsOnly fun e => ¬e.AboutScenario where
  roleNamed _ := failsOnly_query _
  grantsOfRole _ := failsOnly_query _
  begin := failsOnly_query _
  within := Transaction.failsOnly_memory now
  commit _ := failsOnly_update _

end Gatehouse
