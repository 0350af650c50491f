import Gatehouse.Proofs.Store.Reachable
import Gatehouse.Proofs.Template.Run
import Gatehouse.Store.Faults

/-!
# A scenario is applied as a whole or not at all

A `Frail` store is the store itself, except that its transactions can do anything: opening one can
fail, committing one can fail, and the calls in between work on a state of any kind and can fail
anywhere, with or without having changed it.

What can go wrong is listed by `Frail.Fails`.  To say that a call failed in the middle, the calls of
a transaction are logged together with the errors they end with (`Transaction.logged`).  The log
changes nothing, and work fails exactly when one of its calls did, with the error of that call; this
is what `Action.Tracks` says, and it is carried along chains of calls (`Tracks.bind`) through the
lines of a template and the templates of a scenario.
-/

set_option autoImplicit false

namespace Gatehouse

/-! ## Logs -/

/-- A call in a transaction. -/
inductive Call where
  /-- Looks for the role with a name. -/
  | roleNamed (name : String)
  /-- Lists the grants of a role. -/
  | grantsOfRole (id : RoleId)
  /-- Changes something. -/
  | write (x : Write)
deriving DecidableEq, Repr

/-- A call that was made. -/
structure Event where
  /-- The call. -/
  call : Call
  /-- The error it ended with, if it failed. -/
  error : Option Error
deriving DecidableEq, Repr

/-- The error of a result. -/
def failure {α : Type} : Except Error α → Option Error
  | .ok _ => none
  | .error e => some e

/-- Does something and logs it. -/
def Action.logged {τ α : Type} (x : Action τ α) (c : Call) : Action (τ × List Event) α := fun w =>
  ((x.run w.1).1, ((x.run w.1).2, w.2 ++ [⟨c, failure (x.run w.1).1⟩]))

/-- The operations of a transaction, each of them logged. -/
def Transaction.logged {τ : Type} (t : Transaction τ) : Transaction (τ × List Event) where
  roleNamed name := (t.roleNamed name).logged (.roleNamed name)
  insertRole new := (t.insertRole new).logged (.write (.insertRole new))
  setFlags id flags := (t.setFlags id flags).logged (.write (.setFlags id flags))
  grantsOfRole id := (t.grantsOfRole id).logged (.grantsOfRole id)
  clearRole id := (t.clearRole id).logged (.write (.clearRole id))
  insertGrant d := (t.insertGrant d).logged (.write (.insertGrant d))

/-- The first action does what the second one does, and beyond that only logs calls, of which none
failed if the action succeeds and exactly one if it fails, with the error of the action. -/
def Action.Tracks {τ α : Type} (x' : Action (τ × List Event) α) (x : Action τ α) : Prop :=
  ∀ w log, ∃ events : List Event,
    x'.run (w, log) = ((x.run w).1, ((x.run w).2, log ++ events)) ∧
      events.filterMap (·.error) = (failure (x.run w).1).toList

namespace Action.Tracks

variable {τ α β : Type}

theorem pure (a : α) : Tracks (τ := τ) (pure a) (pure a) := fun _ log =>
  ⟨[], by rw [List.append_nil]; rfl, rfl⟩

theorem logged (x : Action τ α) (c : Call) : Tracks (x.logged c) x := by
  intro w log
  refine ⟨[⟨c, failure (x.run w).1⟩], rfl, ?_⟩
  cases failure (x.run w).1 <;> rfl

/-- In a chain of actions the second one is begun only if the first one succeeds, so there is still
one failed call at most. -/
theorem bind {x' : Action (τ × List Event) α} {x : Action τ α}
    {f' : α → Action (τ × List Event) β} {f : α → Action τ β} (hx : Tracks x' x)
    (hf : ∀ a, Tracks (f' a) (f a)) : Tracks (x' >>= f') (x >>= f) := by
  intro w log
  obtain ⟨events, hrun, herrors⟩ := hx w log
  rcases h : x.run w with ⟨e | a, t⟩ <;> rw [h] at hrun herrors
  -- The first action failed: the chain ends here, and its log with the failed call.
  · rw [Action.run_bind_of_error h, Action.run_bind_of_error hrun]
    exact ⟨events, rfl, herrors⟩
  · obtain ⟨more, hrun', herrors'⟩ := hf a t (log ++ events)
    rw [Action.run_bind_of_ok h, Action.run_bind_of_ok hrun]
    refine ⟨events ++ more, by rw [hrun', List.append_assoc], ?_⟩
    rw [List.filterMap_append, herrors, herrors']
    rfl

end Action.Tracks

namespace Transaction

variable {τ : Type} (t : Transaction τ)

theorem settleRole_tracks (d : RoleTemplate) :
    Action.Tracks (t.logged.settleRole d) (t.settleRole d) := by
  refine .bind (.logged _ _) fun found => ?_
  cases found with
  | some old =>
    exact .bind (.logged _ _) fun grants => .bind (.logged _ _) fun updated => .pure _
  | none => exact .bind (.logged _ _) fun created => .pure _

theorem insertLines_tracks (role : RoleId) (ls : List GrantLine) :
    Action.Tracks (t.logged.insertLines role ls) (t.insertLines role ls) := by
  induction ls with
  | nil => exact .pure ()
  | cons l rest ih => exact .bind (.logged _ _) fun _ => ih

theorem applyRole_tracks (d : RoleTemplate) :
    Action.Tracks (t.logged.applyRole d) (t.applyRole d) := by
  refine .bind (t.settleRole_tracks d) fun p => ?_
  refine .bind (.logged _ _) fun count => ?_
  refine .bind (t.insertLines_tracks p.1.id d.lines) fun _ => ?_
  exact .bind (.logged _ _) fun grants => .pure _

theorem applyRoles_tracks (ds : List RoleTemplate) :
    Action.Tracks (t.logged.applyRoles ds) (t.applyRoles ds) := by
  induction ds with
  | nil => exact .pure []
  | cons d rest ih => exact .bind (t.applyRole_tracks d) fun step => .bind ih fun _ => .pure _

end Transaction

/-! ## A store that can fail -/

/-- Transactions that can fail in any way. -/
structure Frail (τ : Type) where
  /-- What opening a transaction on a store gives. -/
  opening : Store → Except Error τ
  /-- What can be done in a transaction. -/
  within : Transaction τ
  /-- The store that committing a transaction installs; if it fails, none is. -/
  closing : τ → Except Error Store

namespace Frail

variable {τ : Type} (f : Frail τ)

/-- The store itself with these transactions. -/
def backend (now : Stamp) : Backend Store τ :=
  { Backend.memory now with
    begin := .attempt fun s => (f.opening s).map fun w => (w, s)
    within := f.within
    commit := fun w => .attempt fun _ => (f.closing w).map fun t => ((), t) }

/-- The calls made when the templates are applied in a transaction. -/
def events (ds : List RoleTemplate) (w : τ) : List Event :=
  ((f.within.logged.applyRoles ds).run (w, [])).2.2

/-- What has become of a transaction in which the templates were applied. -/
def after (ds : List RoleTemplate) (w : τ) : τ := ((f.within.applyRoles ds).run w).2

/-- Applying the templates fails with the error of a call that failed, if there is one. -/
theorem failure_applyRoles (ds : List RoleTemplate) (w : τ) :
    (f.events ds w).filterMap (·.error) =
      (failure ((f.within.applyRoles ds).run w).1).toList := by
  obtain ⟨events, hrun, herrors⟩ := f.within.applyRoles_tracks ds w []
  rw [Frail.events, hrun]
  exact herrors

/-- Something goes wrong with the call, and this is the error. -/
inductive Fails (l : Library) (call : ApplyCall) (s : Store) (e : Error) : Prop
  /-- There is no such scenario, or no such role in it. -/
  | unknown (plan : call.plan l = .error e)
  /-- The scenario is not in order. -/
  | invalid {sc : Scenario} {ds : List RoleTemplate} (plan : call.plan l = .ok (sc, ds))
      (check : sc.check = .error e)
  /-- No transaction can be opened. -/
  | opening {sc : Scenario} {ds : List RoleTemplate} (plan : call.plan l = .ok (sc, ds))
      (check : sc.check = .ok ()) (opening : f.opening s = .error e)
  /-- A call in the transaction fails. -/
  | within {sc : Scenario} {ds : List RoleTemplate} {w : τ} (plan : call.plan l = .ok (sc, ds))
      (check : sc.check = .ok ()) (opening : f.opening s = .ok w) (event : Event)
      (mem : event ∈ f.events ds w) (error : event.error = some e)
  /-- All calls in the transaction succeed, but it cannot be committed. -/
  | closing {sc : Scenario} {ds : List RoleTemplate} {w : τ} (plan : call.plan l = .ok (sc, ds))
      (check : sc.check = .ok ()) (opening : f.opening s = .ok w)
      (smooth : ∀ event ∈ f.events ds w, event.error = none)
      (closing : f.closing (f.after ds w) = .error e)

/-- How a call on the store goes: only committing changes the store. -/
theorem run_action (now : Stamp) (l : Library) (run : String) (call : ApplyCall) (s : Store) :
    (call.action (f.backend now) l run).run s = match call.plan l with
      | .error e => (.error e, s)
      | .ok (sc, ds) => match sc.check with
        | .error e => (.error e, s)
        | .ok () => match f.opening s with
          | .error e => (.error e, s)
          | .ok w => match (f.within.applyRoles ds).run w with
            | (.error e, _) => (.error e, s)
            | (.ok steps, done) => match f.closing done with
              | .error e => (.error e, s)
              | .ok t => (.ok (.ofSteps run sc.name steps), t) := by
  have hbegin : (f.backend now).begin.run s = match f.opening s with
      | .error e => (.error e, s)
      | .ok w => (.ok w, s) := by
    show (Action.attempt _).run s = _
    rw [Action.run_attempt]
    cases f.opening s <;> rfl
  have hcommit : ∀ w, ((f.backend now).commit w).run s = match f.closing w with
      | .error e => (.error e, s)
      | .ok t => (.ok (), t) := fun w => by
    show (Action.attempt _).run s = _
    rw [Action.run_attempt]
    cases f.closing w <;> rfl
  rw [ApplyCall.run_action, hbegin]
  rcases call.plan l with e | ⟨sc, ds⟩
  · rfl
  · dsimp only
    rcases sc.check with e | ⟨⟩
    · rfl
    · dsimp only
      rcases f.opening s with e | w
      · rfl
      · dsimp only
        rw [show (f.backend now).within = f.within from rfl]
        rcases (f.within.applyRoles ds).run w with ⟨e | steps, done⟩
        · rfl
        · dsimp only
          rw [hcommit]
          rcases f.closing done with e | t <;> rfl

/-- Applying the templates fails exactly when one of the calls it makes does. -/
theorem applyRoles_eq_error_iff {ds : List RoleTemplate} {w : τ} {e : Error} :
    ((f.within.applyRoles ds).run w).1 = .error e ↔
      ∃ event ∈ f.events ds w, event.error = some e := by
  rw [← List.mem_filterMap, failure_applyRoles]
  cases ((f.within.applyRoles ds).run w).1 <;> simp [failure, eq_comm]

/-- Applying the templates succeeds exactly when all of the calls it makes do. -/
theorem exists_applyRoles_eq_ok_iff {ds : List RoleTemplate} {w : τ} :
    (∃ steps, ((f.within.applyRoles ds).run w).1 = .ok steps) ↔
      ∀ event ∈ f.events ds w, event.error = none := by
  rw [← List.filterMap_eq_nil_iff, failure_applyRoles]
  cases ((f.within.applyRoles ds).run w).1 <;> simp [failure]

/-- A call that fails has left the store as it was, and something went wrong with it. -/
theorem fails_of_run {now : Stamp} {l : Library} {run : String} {call : ApplyCall} {s t : Store}
    {e : Error} (h : (call.action (f.backend now) l run).run s = (.error e, t)) :
    t = s ∧ f.Fails l call s e := by
  rw [run_action] at h
  split at h
  · rename_i hplan
    cases h
    exact ⟨rfl, .unknown hplan⟩
  rename_i sc ds hplan
  split at h
  · rename_i hcheck
    cases h
    exact ⟨rfl, .invalid hplan hcheck⟩
  rename_i hcheck
  split at h
  · rename_i hopen
    cases h
    exact ⟨rfl, .opening hplan hcheck hopen⟩
  rename_i w hopen
  split at h
  · rename_i e' w' hrun
    cases h
    obtain ⟨event, hmem, herror⟩ := f.applyRoles_eq_error_iff.1 (congrArg Prod.fst hrun)
    exact ⟨rfl, .within hplan hcheck hopen event hmem herror⟩
  rename_i steps done hrun
  split at h <;> cases h
  rename_i hclose
  have hsmooth := f.exists_applyRoles_eq_ok_iff.1 ⟨steps, congrArg Prod.fst hrun⟩
  have hdone : f.after ds w = done := congrArg Prod.snd hrun
  exact ⟨rfl, .closing hplan hcheck hopen hsmooth (hdone ▸ hclose)⟩

/-- A call with which something goes wrong fails and leaves the store as it was. -/
theorem run_of_fails {now : Stamp} {l : Library} {run : String} {call : ApplyCall} {s : Store}
    {e : Error} (h : f.Fails l call s e) :
    (call.action (f.backend now) l run).run s = (.error e, s) := by
  rw [run_action]
  cases h with
  | unknown plan => rw [plan]
  | invalid plan check => simp only [plan, check]
  | opening plan check opening => simp only [plan, check, opening]
  | @within sc ds w plan check opening event mem error =>
    have hrun := f.applyRoles_eq_error_iff.2 ⟨event, mem, error⟩
    simp only [plan, check, opening]
    rcases hpair : (f.within.applyRoles ds).run w with ⟨r, w'⟩
    rw [hpair] at hrun
    cases hrun
    rfl
  | @closing sc ds w plan check opening smooth closing =>
    obtain ⟨steps, hrun⟩ := f.exists_applyRoles_eq_ok_iff.2 smooth
    simp only [plan, check, opening]
    rw [after] at closing
    rcases hpair : (f.within.applyRoles ds).run w with ⟨r, w'⟩
    rw [hpair] at hrun closing
    cases hrun
    dsimp only
    rw [closing]

/-- **Applying is all or nothing.**  A call fails exactly when something goes wrong with it: there
is no such scenario or role, the scenario is not in order, no transaction can be opened, a call in
the transaction fails, or it cannot be committed.  Then the store is as it was, its counters
included, and every later call on it gives what it would have given. -/
theorem apply_all_or_nothing (now : Stamp) (l : Library) (run : String) (call : ApplyCall)
    (s : Store) :
    (∀ e t, (call.action (f.backend now) l run).run s = (.error e, t) ↔
      f.Fails l call s e ∧ t = s) ∧
    ∀ e, f.Fails l call s e → ∀ (now' : Stamp) (l' : Library) (run' : String) (later : ApplyCall),
      (later.action (.memory now') l' run').run ((call.action (f.backend now) l run).run s).2 =
        (later.action (.memory now') l' run').run s := by
  refine ⟨fun e t => ⟨fun h => (f.fails_of_run h).symm, ?_⟩, fun e h now' l' run' later => ?_⟩
  · rintro ⟨h, rfl⟩
    exact f.run_of_fails h
  · rw [f.run_of_fails h]

end Frail

/-! ## Faults on purpose -/

/-- The transactions of the store with faults. -/
def Faults.frail (f : Faults) (now : Stamp) : Frail (Store × Nat) where
  opening s := .ok (s, 0)
  within := f.within (.memory now)
  closing w := .ok w.1

/-- A scenario is applied to the store with faults as to a store with such transactions. -/
theorem ApplyCall.action_inject (f : Faults) (now : Stamp) (l : Library) (run : String)
    (call : ApplyCall) :
    call.action (f.inject (.memory now)) l run = call.action ((f.frail now).backend now) l run :=
  action_congr rfl rfl rfl l run call

/-- When the third grant cannot be stored, a role and two grants are there already, and a second
role; nothing of it is left. -/
theorem apply_all_or_nothing_third_grant :
    ((ApplyCall.apply "default").action (Faults.inject { insertAt := some 3 } (.memory newYear))
        .builtIn "1").run teams = (.error (Faults.injected "insert_grant"), teams) := by
  have hfind : Library.builtIn.find? "default" = some .basic := by decide +kernel
  have hplan : (ApplyCall.apply "default").plan .builtIn = .ok (.basic, Scenario.basic.roles) := by
    rw [ApplyCall.plan, hfind]
  have hproblems : Scenario.basic.problems = [] := by decide +kernel
  have hcheck : Scenario.basic.check = .ok () := by rw [Scenario.check, hproblems]
  rw [ApplyCall.action_inject]
  refine ((Frail.apply_all_or_nothing _ _ _ _ _ _).1 _ _).2 ⟨?_, rfl⟩
  exact .within hplan hcheck rfl
    ⟨.write (.insertGrant ((Draft.new (.role ⟨5⟩) "news" "see").onItem "post")),
      some (Faults.injected "insert_grant")⟩ (by decide +kernel) rfl

end Gatehouse
