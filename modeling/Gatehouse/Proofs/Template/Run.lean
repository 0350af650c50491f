import Gatehouse.Proofs.Action
import Gatehouse.Proofs.Scenario.Problem
import Gatehouse.Template.Apply

/-!
# How scenarios are applied

There are three ways in: a scenario by its name, a scenario, and a single role of a scenario by
their names.  `ApplyCall.plan` tells what each of them is about to apply, if there is such a thing,
and `ApplyCall.run_action` what becomes of it: the scenario is checked, a transaction is opened, the
templates of the plan are applied in it, and it is committed.  Any of these steps can fail, and none
is done after one that did.
-/

set_option autoImplicit false

namespace Gatehouse

/-! ## Transactions -/

/-- How work in a transaction goes on: nothing is committed unless all of it succeeds. -/
theorem run_inTransaction {σ τ α : Type} (b : Backend σ τ) (work : Action τ α) (s : σ) :
    (b.inTransaction work).run s = match b.begin.run s with
      | (.error e, s') => (.error e, s')
      | (.ok opened, s') => match work.run opened with
        | (.error e, _) => (.error e, s')
        | (.ok a, done) => match (b.commit done).run s' with
          | (.error e, t) => (.error e, t)
          | (.ok (), t) => (.ok a, t) := by
  rw [Backend.inTransaction, Action.run_bind]
  rcases b.begin.run s with ⟨e | opened, s'⟩
  · rfl
  · dsimp only
    rw [show work opened = work.run opened from rfl]
    rcases work.run opened with ⟨e | a, done⟩
    · rfl
    · dsimp only
      rw [Action.run_bind]
      rcases (b.commit done).run s' with ⟨e | ⟨⟩, t⟩ <;> rfl

/-- Several templates go through if the first one does and then the others do. -/
theorem Transaction.run_applyRoles_cons_eq_ok_iff {τ : Type} {b : Transaction τ} {d : RoleTemplate}
    {rest : List RoleTemplate} {s t : τ} {steps : List RoleStep} :
    (b.applyRoles (d :: rest)).run s = (.ok steps, t) ↔ ∃ step others u,
      (b.applyRole d).run s = (.ok step, u) ∧ (b.applyRoles rest).run u = (.ok others, t) ∧
        steps = step :: others :=
  Action.run_cons_eq_ok_iff

/-- When several templates fail, one of them does after those before it went through. -/
theorem Transaction.exists_of_run_applyRoles_error {τ : Type} {b : Transaction τ}
    {ds : List RoleTemplate} {s t : τ} {e : Error} (h : (b.applyRoles ds).run s = (.error e, t)) :
    ∃ done d later steps u, ds = done ++ d :: later ∧
      (b.applyRoles done).run s = (.ok steps, u) ∧ (b.applyRole d).run u = (.error e, t) := by
  induction ds generalizing s with
  | nil => cases h
  | cons d rest ih =>
    rcases hstep : (b.applyRole d).run s with ⟨e' | step, u⟩
    · rw [applyRoles, Action.run_bind_of_error hstep] at h
      cases h
      exact ⟨[], d, rest, [], s, rfl, rfl, hstep⟩
    · rw [applyRoles, Action.run_bind_of_ok hstep] at h
      rcases hrest : (b.applyRoles rest).run u with ⟨e' | others, v⟩
      · rw [Action.run_bind_of_error hrest] at h
        cases h
        obtain ⟨done, d', later, steps, w, rfl, hdone, hfails⟩ := ih hrest
        exact ⟨d :: done, d', later, step :: steps, w, rfl,
          run_applyRoles_cons_eq_ok_iff.2 ⟨step, steps, u, hstep, hdone, rfl⟩, hfails⟩
      · rw [Action.run_bind_of_ok hrest] at h
        cases h

/-! ## Ways in -/

/-- A way to have a scenario or a part of it applied. -/
inductive ApplyCall where
  /-- The scenario with a name. -/
  | apply (name : String)
  /-- A scenario. -/
  | applyScenario (sc : Scenario)
  /-- A single role of the scenario with a name. -/
  | resetRole (name role : String)
deriving DecidableEq, Repr

namespace ApplyCall

variable {σ τ : Type}

/-- What the call does. -/
def action (b : Backend σ τ) (l : Library) (run : String) : ApplyCall → Action σ ApplyReport
  | .apply name => b.apply l run name
  | .applyScenario sc => b.applyScenario run sc
  | .resetRole name role => b.resetRole l run name role

/-- The scenario that the call is about, and those of its templates that are to be applied. -/
def plan (l : Library) : ApplyCall → Except Error (Scenario × List RoleTemplate)
  | .apply name =>
    match l.find? name with
    | none => .error (.notFound (.scenario name))
    | some sc => .ok (sc, sc.roles)
  | .applyScenario sc => .ok (sc, sc.roles)
  | .resetRole name role =>
    match l.find? name with
    | none => .error (.notFound (.scenario name))
    | some sc =>
      match sc.role? role with
      | none => .error (.notFound (.roleOfScenario role sc.name))
      | some template => .ok (sc, [template])

/-- Of a backend only the transactions matter. -/
theorem action_congr {b b' : Backend σ τ} (hbegin : b.begin = b'.begin)
    (hwithin : b.within = b'.within) (hcommit : b.commit = b'.commit) (l : Library) (run : String)
    (call : ApplyCall) : call.action b l run = call.action b' l run := by
  cases call <;>
    simp only [action, Backend.apply, Backend.applyScenario, Backend.resetRole, Backend.applySome,
      Backend.inTransaction, hbegin, hwithin, hcommit]

/-- Only templates of the scenario are planned to be applied, each as often as it is there. -/
theorem sublist_of_plan {l : Library} {call : ApplyCall} {sc : Scenario} {ds : List RoleTemplate}
    (h : call.plan l = .ok (sc, ds)) : ds.Sublist sc.roles := by
  cases call with
  | apply name =>
    rw [plan] at h
    split at h <;> cases h
    exact .refl _
  | applyScenario sc' =>
    cases h
    exact .refl _
  | resetRole name role =>
    rw [plan] at h
    split at h
    · cases h
    · split at h <;> cases h
      rename_i hrole
      exact List.singleton_sublist.2 (List.mem_of_find?_eq_some hrole)

/-- The call applies what is planned. -/
theorem run_action_eq (b : Backend σ τ) (l : Library) (run : String) (call : ApplyCall) (s : σ) :
    (call.action b l run).run s = match call.plan l with
      | .error e => (.error e, s)
      | .ok (sc, ds) => (b.applySome run sc ds).run s := by
  cases call with
  | apply name =>
    rw [action, plan, Backend.apply, Action.run_bind, Action.run_lift, Library.get]
    cases l.find? name <;> rfl
  | applyScenario sc => rfl
  | resetRole name role =>
    rw [action, plan, Backend.resetRole, Action.run_bind, Action.run_lift, Library.get]
    cases l.find? name with
    | none => rfl
    | some sc =>
      dsimp only
      rw [Action.run_bind]
      cases sc.role? role <;> rfl

/-- What is planned is checked, then applied in a transaction, then committed. -/
theorem run_action (b : Backend σ τ) (l : Library) (run : String) (call : ApplyCall) (s : σ) :
    (call.action b l run).run s = match call.plan l with
      | .error e => (.error e, s)
      | .ok (sc, ds) => match sc.check with
        | .error e => (.error e, s)
        | .ok () => match b.begin.run s with
          | (.error e, s') => (.error e, s')
          | (.ok opened, s') => match (b.within.applyRoles ds).run opened with
            | (.error e, _) => (.error e, s')
            | (.ok steps, done) => match (b.commit done).run s' with
              | (.error e, t) => (.error e, t)
              | (.ok (), t) => (.ok (.ofSteps run sc.name steps), t) := by
  rw [run_action_eq]
  rcases call.plan l with e | ⟨sc, ds⟩
  · rfl
  · dsimp only
    rw [Backend.applySome, Action.run_bind, Action.run_lift]
    rcases sc.check with e | ⟨⟩
    · rfl
    · dsimp only
      rw [Action.run_bind, run_inTransaction]
      rcases b.begin.run s with ⟨e | opened, s'⟩
      · rfl
      · dsimp only
        rcases (b.within.applyRoles ds).run opened with ⟨e | steps, done⟩
        · rfl
        · dsimp only
          rcases (b.commit done).run s' with ⟨e | ⟨⟩, t⟩ <;> rfl

/-- What is behind a call that succeeds. -/
theorem run_action_eq_ok {b : Backend σ τ} {l : Library} {run : String} {call : ApplyCall} {s t : σ}
    {report : ApplyReport} (h : (call.action b l run).run s = (.ok report, t)) :
    ∃ sc ds, call.plan l = .ok (sc, ds) ∧ sc.check = .ok () ∧
      ∃ opened s' steps done, b.begin.run s = (.ok opened, s') ∧
        (b.within.applyRoles ds).run opened = (.ok steps, done) ∧
        (b.commit done).run s' = (.ok (), t) ∧ report = .ofSteps run sc.name steps := by
  rw [run_action] at h
  split at h
  · cases h
  rename_i sc ds hplan
  split at h
  · cases h
  rename_i hcheck
  split at h
  · cases h
  rename_i opened s' hbegin
  split at h
  · cases h
  rename_i steps done hrun
  split at h <;> cases h
  rename_i hcommit
  exact ⟨sc, ds, hplan, hcheck, opened, s', steps, done, hbegin, hrun, hcommit, rfl⟩

end ApplyCall

end Gatehouse
