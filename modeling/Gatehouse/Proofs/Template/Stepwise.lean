import Gatehouse.Proofs.Store.Clock
import Gatehouse.Proofs.Template.Report
import Mathlib.Data.List.Nodup

/-!
# Role by role

A scenario is applied in one transaction.  Each of its roles can also be reset alone, in a
transaction of its own which is committed before the next one begins (`resetEach`).  This module
follows both side by side.

Both apply the same templates to stores that are alike, the one at a single moment and the others at
a moment each, so they succeed or fail alike (`Transaction.applyRole_agree`).  What they tell and
leave differs in the dates of roles that were created at most.  They part only at a failure, which
undoes what was applied before it, and none of what was reset.
-/

set_option autoImplicit false

namespace Gatehouse

/-! ## The same template at another moment -/

section Alike

variable (R : Stamp → Stamp → Prop)

/-- The snapshots differ in the dates of their roles at most, and these are related. -/
structure Snapshot.Alike (x y : Snapshot) : Prop where
  /-- The name is the same. -/
  name : x.name = y.name
  /-- The roles are alike. -/
  role : Option.Rel (Role.Alike R) x.role y.role
  /-- The grants are the same. -/
  grants : x.grants = y.grants

/-- The steps differ in the dates of the roles they show at most, and these are related. -/
structure RoleStep.Alike (x y : RoleStep) : Prop where
  /-- The same became of the role. -/
  applied : x.applied = y.applied
  /-- The role was alike before, -/
  before : x.before.Alike R y.before
  /-- and is alike after. -/
  after : x.after.Alike R y.after

end Alike

variable {R : Stamp → Stamp → Prop}

theorem Snapshot.Alike.eq (hR : ∀ a b, R a b → a = b) {x y : Snapshot} (h : x.Alike R y) :
    x = y := by
  obtain ⟨hname, hrole, hgrants⟩ := h
  cases x
  cases y
  cases hrole with
  | none => simp_all
  | some hr =>
    have hsame := Role.Alike.eq hR hr
    simp_all

namespace Transaction

variable {m m' : Stamp} (hR : ∀ a, R a a)
include hR

theorem settleRole_agree (hm : R m m') (d : RoleTemplate) :
    Action.Agree R (fun p q => p.1.Alike R q.1 ∧ p.2.Alike R q.2) ((memory m).settleRole d)
      ((memory m').settleRole d) := by
  refine .bind (roleNamed_agree d.name) fun found found' h => ?_
  cases h with
  | none =>
    exact .bind (insertRole_agree hR hm _) fun role role' hrole => .pure ⟨hrole, rfl, .none, rfl⟩
  | @some old old' hold =>
    dsimp only
    rw [hold.id]
    refine .bind (grantsOfRole_agree old'.id) fun grants grants' hgrants => ?_
    exact .bind (setFlags_agree hR old'.id d.flags) fun role role' hrole =>
      .pure ⟨hrole, rfl, .some hold, hgrants⟩

theorem insertLines_agree (role : RoleId) (ls : List GrantLine) :
    Action.Agree R Eq ((memory m).insertLines role ls) ((memory m').insertLines role ls) := by
  induction ls with
  | nil => exact .pure rfl
  | cons l rest ih => exact .bind (insertGrant_agree hR _) fun _ _ _ => ih

/-- At two moments a template makes alike steps of stores that are alike. -/
theorem applyRole_agree (hm : R m m') (d : RoleTemplate) :
    Action.Agree R (RoleStep.Alike R) ((memory m).applyRole d) ((memory m').applyRole d) := by
  refine .bind (settleRole_agree hR hm d) fun (role, before) (role', before') h => ?_
  obtain ⟨hrole, hbefore⟩ := h
  dsimp only at hrole hbefore ⊢
  rw [hrole.id]
  refine .bind (clearRole_agree hR role'.id) fun _ _ _ => ?_
  refine .bind (insertLines_agree hR role'.id d.lines) fun _ _ _ => ?_
  refine .bind (grantsOfRole_agree role'.id) fun grants grants' hgrants => ?_
  have hnone : before.role.isNone = before'.role.isNone := by
    have hfound := hbefore.role
    generalize before.role = found, before'.role = found' at hfound ⊢
    cases hfound <;> rfl
  refine .pure ⟨?_, hbefore, rfl, .some hrole, hgrants⟩
  rw [hnone, hbefore.grants, hgrants]

end Transaction

/-! ## Resetting roles -/

/-- A role that is reset. -/
structure Reset where
  /-- The name of the role. -/
  role : String
  /-- The moment at which it is reset. -/
  moment : Stamp
  /-- The name of the run. -/
  run : String
deriving DecidableEq, Repr

/-- Resets the role in a transaction of its own. -/
def Reset.action (l : Library) (scenario : String) (r : Reset) : Action Store ApplyReport :=
  (Backend.memory r.moment).resetRole l r.run scenario r.role

/-- Resets roles of a scenario, one after the other up to the first that fails. -/
def resetEach (l : Library) (scenario : String) : List Reset → Action Store (List ApplyReport)
  | [] => pure []
  | r :: rest => do
    let report ← r.action l scenario
    return report :: (← resetEach l scenario rest)

/-- The dates are the same, or the first is the moment of the one run and the second that of a
reset. -/
def Reset.SameDate (now : Stamp) (resets : List Reset) (a b : Stamp) : Prop :=
  a = b ∨ a = now ∧ ∃ r ∈ resets, b = r.moment

/-- The report tells what the other reports tell one after the other, but for the dates of roles. -/
structure ApplyReport.SumsUp (R : Stamp → Stamp → Prop) (report : ApplyReport)
    (reports : List ApplyReport) : Prop where
  /-- The same became of the roles. -/
  roles : report.roles = reports.flatMap (·.roles)
  /-- They were alike before, -/
  before : List.Forall₂ (Snapshot.Alike R) report.before (reports.flatMap (·.before))
  /-- and are alike after. -/
  after : List.Forall₂ (Snapshot.Alike R) report.after (reports.flatMap (·.after))

section Resets

variable {l : Library} {scenario : String} {sc : Scenario}

/-- Resetting a role is applying its template, and nothing if that fails. -/
theorem Reset.run_action {r : Reset} {d : RoleTemplate} (hfind : l.find? scenario = some sc)
    (hcheck : sc.check = .ok ()) (hrole : sc.role? r.role = some d) (s : Store) :
    (r.action l scenario).run s =
      match ((Transaction.memory r.moment).applyRole d).run s with
      | (.error e, _) => (.error e, s)
      | (.ok step, t) => (.ok (.ofSteps r.run sc.name [step]), t) := by
  show ((ApplyCall.resetRole scenario r.role).action (.memory r.moment) l r.run).run s = _
  have hwithin : (Backend.memory r.moment).within.applyRoles [d] =
      (Transaction.memory r.moment).applyRole d >>= fun step => pure [step] := by
    simp only [Backend.memory, Transaction.applyRoles, pure_bind]
  simp only [ApplyCall.run_action, ApplyCall.plan, hfind, hrole, hcheck, Backend.run_begin_memory,
    hwithin, Action.run_bind]
  rcases ((Transaction.memory r.moment).applyRole d).run s with ⟨e | step, t⟩ <;> rfl

theorem run_resetEach_cons_eq_ok_iff {r : Reset} {rest : List Reset} {s t : Store}
    {reports : List ApplyReport} :
    (resetEach l scenario (r :: rest)).run s = (.ok reports, t) ↔ ∃ report others u,
      (r.action l scenario).run s = (.ok report, u) ∧
        (resetEach l scenario rest).run u = (.ok others, t) ∧ reports = report :: others :=
  Action.run_cons_eq_ok_iff

/-- A report on one role, and what sums up further ones. -/
theorem ApplyReport.SumsUp.cons {run run' : String} {step step' : RoleStep} {steps : List RoleStep}
    {reports : List ApplyReport} (h : step.Alike R step')
    (hrest : (ofSteps run sc.name steps).SumsUp R reports) :
    (ofSteps run sc.name (step :: steps)).SumsUp R (ofSteps run' sc.name [step'] :: reports) where
  roles := congrArg₂ List.cons h.applied hrest.roles
  before := .cons h.before hrest.before
  after := .cons h.after hrest.after

theorem ApplyReport.SumsUp.eq (hR : ∀ a b, R a b → a = b) {report : ApplyReport}
    {reports : List ApplyReport} (h : report.SumsUp R reports) :
    report.before = reports.flatMap (·.before) ∧ report.after = reports.flatMap (·.after) :=
  ⟨List.forall₂_eq_eq_eq ▸ h.before.imp fun _ _ hx => hx.eq hR,
    List.forall₂_eq_eq_eq ▸ h.after.imp fun _ _ hx => hx.eq hR⟩

variable {now : Stamp} {ds : List RoleTemplate} {resets : List Reset}

/-- If templates go through in one transaction, then resetting their roles one by one succeeds too,
tells the same and leads to the same store, but for dates. -/
theorem exists_run_resetEach (hfind : l.find? scenario = some sc) (hcheck : sc.check = .ok ())
    (hroles : ∀ d ∈ ds, sc.role? d.name = some d)
    (hresets : resets.map (·.role) = ds.map (·.name)) (hR : ∀ a, R a a)
    (hm : ∀ r ∈ resets, R now r.moment) {s s' t : Store} (hs : s.Alike R s')
    {steps : List RoleStep} (h : ((Transaction.memory now).applyRoles ds).run s = (.ok steps, t))
    (run : String) :
    ∃ reports t', (resetEach l scenario resets).run s' = (.ok reports, t') ∧ t.Alike R t' ∧
      (ApplyReport.ofSteps run sc.name steps).SumsUp R reports := by
  -- On the templates; after each of them the stores are alike again.
  induction ds generalizing s s' steps resets with
  | nil =>
    obtain rfl := List.map_eq_nil_iff.1 hresets
    cases h
    exact ⟨[], s', rfl, hs, rfl, .nil, .nil⟩
  | cons d rest ih =>
    obtain ⟨r, others, rfl, hr, hothers⟩ := List.map_eq_cons_iff.1 hresets
    obtain ⟨step, steps', u, hstep, hrest, rfl⟩ := Transaction.run_applyRoles_cons_eq_ok_iff.1 h
    have hrole : sc.role? r.role = some d := hr ▸ hroles d List.mem_cons_self
    obtain ⟨step', u', hstep', hsteps, hu⟩ :=
      (Transaction.applyRole_agree hR (hm r List.mem_cons_self) d).of_ok hs hstep
    obtain ⟨reports, t', hreports, ht, hsum⟩ := ih
      (fun e he => hroles e (List.mem_cons_of_mem d he)) hothers
      (fun q hq => hm q (List.mem_cons_of_mem r hq)) hu hrest
    have hreset : (r.action l scenario).run s' = (.ok (.ofSteps r.run sc.name [step']), u') := by
      rw [r.run_action hfind hcheck hrole, hstep']
    exact ⟨_, t', run_resetEach_cons_eq_ok_iff.2 ⟨_, reports, u', hreset, hreports, rfl⟩, ht,
      hsum.cons hsteps⟩

/-- If a template fails in the transaction, then the resets before it succeed and the one of its
role fails with the same error. -/
theorem exists_reset_error (hfind : l.find? scenario = some sc) (hcheck : sc.check = .ok ())
    (hroles : ∀ d ∈ ds, sc.role? d.name = some d)
    (hresets : resets.map (·.role) = ds.map (·.name)) (hR : ∀ a, R a a)
    (hm : ∀ r ∈ resets, R now r.moment) {s s' t : Store} (hs : s.Alike R s') {e : Error}
    (h : ((Transaction.memory now).applyRoles ds).run s = (.error e, t)) :
    ∃ done d later steps u, ds = done ++ d :: later ∧
      ((Transaction.memory now).applyRoles done).run s = (.ok steps, u) ∧
      ((Transaction.memory now).applyRole d).run u = (.error e, t) ∧
      ∃ firsts r others reports v, resets = firsts ++ r :: others ∧
        firsts.map (·.role) = done.map (·.name) ∧ r.role = d.name ∧
        (resetEach l scenario firsts).run s' = (.ok reports, v) ∧
        (r.action l scenario).run v = (.error e, v) := by
  obtain ⟨done, d, later, steps, u, rfl, hdone, hfails⟩ :=
    Transaction.exists_of_run_applyRoles_error h
  rw [List.map_append, List.map_cons] at hresets
  obtain ⟨firsts, back, rfl, hfirsts, hback⟩ := List.map_eq_append_iff.1 hresets
  obtain ⟨r, others, rfl, hr, -⟩ := List.map_eq_cons_iff.1 hback
  obtain ⟨reports, v, hreports, hv, -⟩ := exists_run_resetEach hfind hcheck
    (fun e he => hroles e (List.mem_append_left _ he)) hfirsts hR
    (fun q hq => hm q (List.mem_append_left _ hq)) hs hdone ""
  have hd : d ∈ done ++ d :: later := List.mem_append_right _ List.mem_cons_self
  have hlast : R now r.moment := hm r (List.mem_append_right _ List.mem_cons_self)
  obtain ⟨w, hfails', -⟩ := (Transaction.applyRole_agree hR hlast d).of_error hv hfails
  refine ⟨done, d, later, steps, u, rfl, hdone, hfails, firsts, r, others, reports, v, rfl, hfirsts,
    hr, hreports, ?_⟩
  rw [r.run_action hfind hcheck (hr ▸ hroles d hd), hfails']

/-- Each reset tells what was there before all of them. -/
theorem before_of_resetEach (hfind : l.find? scenario = some sc) (hcheck : sc.check = .ok ())
    (hroles : ∀ d ∈ ds, sc.role? d.name = some d)
    (hresets : resets.map (·.role) = ds.map (·.name)) {s t : Store} (hs : s.ReachableInRange)
    (hroom : s.Room ds.length (lineCount ds))
    (hlines : ∀ d ∈ ds, ∀ line ∈ d.lines, line.instanceHasItem = true)
    (hnames : (ds.map (·.name)).Nodup) {reports : List ApplyReport}
    (h : (resetEach l scenario resets).run s = (.ok reports, t)) :
    reports.flatMap (·.before) = ds.map fun d => s.snapshot d.name := by
  induction ds generalizing s resets reports with
  | nil =>
    obtain rfl := List.map_eq_nil_iff.1 hresets
    cases h
    rfl
  | cons d rest ih =>
    obtain ⟨r, others, rfl, hr, hothers⟩ := List.map_eq_cons_iff.1 hresets
    obtain ⟨report, reports', u, hreset, hrest, rfl⟩ := run_resetEach_cons_eq_ok_iff.1 h
    have hrole : sc.role? r.role = some d := hr ▸ hroles d List.mem_cons_self
    rw [r.run_action hfind hcheck hrole] at hreset
    rcases hstep : ((Transaction.memory r.moment).applyRole d).run s with ⟨e | step, u'⟩
    · rw [hstep] at hreset
      cases hreset
    · rw [hstep] at hreset
      cases hreset
      obtain ⟨htells, hu, huroom, hearlier⟩ :=
        first_tells_of_run hs hroom (hlines d List.mem_cons_self) hnames hstep
      have hbefore := ih (fun e he => hroles e (List.mem_cons_of_mem d he)) hothers hu huroom
        (fun e he => hlines e (List.mem_cons_of_mem d he)) (List.nodup_cons.1 hnames).2 hrest
      rw [List.flatMap_cons, List.map_cons, hbefore, List.map_congr_left hearlier]
      exact congrArg (· :: _) htells.before

end Resets

/-- A role of a scenario without repetitions is found by its name. -/
theorem Scenario.role?_name {sc : Scenario} (hnames : (sc.roles.map (·.name)).Nodup)
    {d : RoleTemplate} (hd : d ∈ sc.roles) : sc.role? d.name = some d := by
  cases hfound : sc.role? d.name with
  | none => exact absurd (beq_self_eq_true d.name) (List.find?_eq_none.1 hfound d hd)
  | some d' =>
    have hname : d'.name = d.name := by simpa using List.find?_some hfound
    rw [List.inj_on_of_nodup_map hnames (List.mem_of_find?_eq_some hfound) hd hname]

/-- **Applying a scenario is resetting its roles one by one.**  If the scenario is applied, then
resetting its roles in their order, each in a transaction of its own and at its own moment, succeeds
too.  It leads to the same store, identities and counters included, and the reports put together are
the report of the scenario; only the dates of roles created in these runs can differ, and not if all
is done at one moment.  The roles shown before are the same in any case, as long as the counters do
not wrap around.

If applying the scenario fails at a role, then the resets before it succeed, and the reset of this
role fails with the same error. -/
theorem apply_resets_each (now : Stamp) (run : String) {l : Library} {name : String} {sc : Scenario}
    (hfind : l.find? name = some sc) {resets : List Reset}
    (hresets : resets.map (·.role) = sc.roles.map (·.name)) (s : Store) :
    (∀ report t, ((Backend.memory now).apply l run name).run s = (.ok report, t) →
      ∃ reports t', (resetEach l name resets).run s = (.ok reports, t') ∧
        t.Alike (Reset.SameDate now resets) t' ∧
        report.SumsUp (Reset.SameDate now resets) reports ∧
        ((∀ r ∈ resets, r.moment = now) → t = t' ∧ report.before = reports.flatMap (·.before) ∧
          report.after = reports.flatMap (·.after)) ∧
        (s.ReachableInRange → s.Room sc.roles.length (lineCount sc.roles) →
          report.before = reports.flatMap (·.before))) ∧
    ∀ e t, sc.check = .ok () → ((Backend.memory now).apply l run name).run s = (.error e, t) →
      t = s ∧ ∃ done d later steps u u', sc.roles = done ++ d :: later ∧
        ((Transaction.memory now).applyRoles done).run s = (.ok steps, u) ∧
        ((Transaction.memory now).applyRole d).run u = (.error e, u') ∧
        ∃ firsts r others reports v, resets = firsts ++ r :: others ∧
          firsts.map (·.role) = done.map (·.name) ∧ r.role = d.name ∧
          (resetEach l name firsts).run s = (.ok reports, v) ∧
          (r.action l name).run v = (.error e, v) := by
  have hplan : (ApplyCall.apply name).plan l = .ok (sc, sc.roles) := by
    rw [ApplyCall.plan, hfind]
  have hR : ∀ a, Reset.SameDate now resets a a := fun a => .inl rfl
  have hm : ∀ r ∈ resets, Reset.SameDate now resets now r.moment :=
    fun r hr => .inr ⟨rfl, r, hr, rfl⟩
  constructor
  · intro report t h
    obtain ⟨hcheck, steps, rfl, hrun⟩ := ApplyCall.run_action_memory_eq_ok hplan h
    obtain ⟨hlines, hnames⟩ := ApplyCall.orderly_of_plan hplan hcheck
    have hroles : ∀ d ∈ sc.roles, sc.role? d.name = some d := fun d hd => sc.role?_name hnames hd
    obtain ⟨reports, t', hreports, ht, hsum⟩ :=
      exists_run_resetEach hfind hcheck hroles hresets hR hm (.refl hR s) hrun run
    refine ⟨reports, t', hreports, ht, hsum, fun hnow => ?_, fun hs hroom => ?_⟩
    · have heq : ∀ a b, Reset.SameDate now resets a b → a = b := by
        rintro a b (hab | ⟨rfl, r, hr, rfl⟩)
        · exact hab
        · exact (hnow r hr).symm
      exact ⟨ht.eq heq, hsum.eq heq⟩
    · rw [before_of_resetEach hfind hcheck hroles hresets hs hroom hlines hnames hreports]
      exact (ApplyReport.Tells.of_steps (tells_of_run_all hs hroom hlines hnames hrun)).before
  · intro e t hcheck h
    obtain ⟨-, hnames⟩ := ApplyCall.orderly_of_plan hplan hcheck
    have hroles : ∀ d ∈ sc.roles, sc.role? d.name = some d := fun d hd => sc.role?_name hnames hd
    change ((ApplyCall.apply name).action (.memory now) l run).run s = (.error e, t) at h
    simp only [ApplyCall.run_action, hplan, hcheck, Backend.run_begin_memory] at h
    rcases hrun : ((Backend.memory now).within.applyRoles sc.roles).run s with ⟨e' | steps, u'⟩
    · rw [hrun] at h
      cases h
      obtain ⟨done, d, later, steps, u, hsplit, hdone, hfails, hresetfails⟩ :=
        exists_reset_error hfind hcheck hroles hresets hR hm (.refl hR s) hrun
      exact ⟨rfl, done, d, later, steps, u, u', hsplit, hdone, hfails, hresetfails⟩
    · rw [hrun] at h
      cases h

/-- Resets of the roles of the press, one a day. -/
def pressResets : List Reset :=
  [⟨"writers", ⟨2025, 1, 2, 0, 0, 0, 0, by decide⟩, "2"⟩,
    ⟨"printers", ⟨2025, 1, 3, 0, 0, 0, 0, by decide⟩, "3"⟩]

/-- Resets of the roles of the scenario with a blank name. -/
def unsignedResets : List Reset := [⟨"readers", newYear, "2"⟩, ⟨" ", newYear, "3"⟩]

/-- Resetting the roles of the press does what applying the scenario does.  Where the second role
cannot be created, the first one is reset nonetheless. -/
theorem apply_resets_each_press :
    (∃ report t reports t',
      ((Backend.memory newYear).apply ⟨.ofList [press]⟩ "1" "press").run teams = (.ok report, t) ∧
      (resetEach ⟨.ofList [press]⟩ "press" pressResets).run teams = (.ok reports, t') ∧
      t.Alike (Reset.SameDate newYear pressResets) t' ∧ report.roles = reports.flatMap (·.roles) ∧
      report.before = reports.flatMap (·.before)) ∧
    ((Backend.memory newYear).apply ⟨.ofList [unsigned]⟩ "1" "unsigned").run teams =
      (.error (.validation .blankRoleName), teams) ∧
    ∃ firsts r others reports v, unsignedResets = firsts ++ r :: others ∧
      (resetEach ⟨.ofList [unsigned]⟩ "unsigned" firsts).run teams = (.ok reports, v) ∧
      (r.action ⟨.ofList [unsigned]⟩ "unsigned").run v =
        (.error (.validation .blankRoleName), v) := by
  constructor
  · obtain ⟨report, t, hrun⟩ := Action.exists_run_eq_ok
      (x := (Backend.memory newYear).apply ⟨.ofList [press]⟩ "1" "press") (s := teams)
      (by decide +kernel)
    have hfind : Library.find? ⟨.ofList [press]⟩ "press" = some press := rfl
    have hresets : pressResets.map (·.role) = press.roles.map (·.name) := rfl
    obtain ⟨reports, t', hreports, ht, hsum, -, hbefore⟩ :=
      (apply_resets_each newYear "1" hfind hresets teams).1 report t hrun
    exact ⟨report, t, reports, t', hrun, hreports, ht, hsum.roles,
      hbefore reachableInRange_teams room_press⟩
  · have hproblems : unsigned.problems = [] := by decide +kernel
    have hcheck : unsigned.check = .ok () := by rw [Scenario.check, hproblems]
    have hrun : ((Backend.memory newYear).apply ⟨.ofList [unsigned]⟩ "1" "unsigned").run teams =
        (.error (.validation .blankRoleName), teams) := by decide +kernel
    have hfind : Library.find? ⟨.ofList [unsigned]⟩ "unsigned" = some unsigned := rfl
    have hresets : unsignedResets.map (·.role) = unsigned.roles.map (·.name) := rfl
    obtain ⟨-, done, d, later, steps, u, u', -, -, -, firsts, r, others, reports, v, hsplit, -, -,
      hreports, hfails⟩ := (apply_resets_each newYear "1" hfind hresets teams).2 _ _ hcheck hrun
    exact ⟨hrun, firsts, r, others, reports, v, hsplit, hreports, hfails⟩

end Gatehouse
