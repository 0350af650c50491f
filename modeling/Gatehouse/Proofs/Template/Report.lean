import Gatehouse.Proofs.Template.Difference
import Gatehouse.Proofs.Template.Success

/-!
# What a report tells

The report on applying a scenario is put together inside the transaction: each role is looked up
just before it is settled, and its grants just after they were stored.  Still it tells what was
there before the whole run and what is there after it (`ApplyReport.Tells`), because no template
touches the role of another one (`Store.Applied.snapshot_eq`).

A scenario that is applied once more finds its roles as the templates say.  They stay as they are,
and so does everything else but their grants, which are stored anew (`Store.Renewed`): under other
identities, they say the same and are listed in the same order.
-/

set_option autoImplicit false

namespace Gatehouse

open Std

/-! ## Snapshots -/

namespace Store

/-- The role with a name, and its grants as listed. -/
def snapshot (s : Store) (name : String) : Snapshot := ⟨name, s.roleNamed? name, s.grantsNamed name⟩

variable {s t : Store}

theorem snapshot_of_none {name : String} (h : s.roleNamed? name = none) :
    s.snapshot name = ⟨name, none, []⟩ := by
  rw [snapshot, grantsNamed, current?, h]
  rfl

theorem Coherent.snapshot_name (hs : s.Coherent) {r : Role} (hr : r ∈ s.roles) :
    s.snapshot r.name = ⟨r.name, some r, s.grantsOfRole r.id⟩ := by
  rw [snapshot, grantsNamed, current?, hs.roleNamed?_eq_some_iff.2 ⟨hr, rfl⟩]
  rfl

/-- Applying templates makes no difference to what there is under any other name. -/
theorem Applied.snapshot_eq {ds : List RoleTemplate} (h : s.Applied t ds) (hs : s.Coherent)
    (ht : t.Coherent) {name : String} (hname : ∀ d ∈ ds, d.name ≠ name) :
    t.snapshot name = s.snapshot name := by
  cases hfound : s.roleNamed? name with
  | some r =>
    obtain ⟨hr, rfl⟩ := hs.roleNamed?_eq_some_iff.1 hfound
    rw [hs.snapshot_name hr, ht.snapshot_name ((h.roles r hname).2 hr),
      grantsOfRole_congr (h.grants r hr hname)]
  | none =>
    have hnone : ∀ r ∈ t.roles, r.name ≠ name := by
      intro r hr hrname
      have hold : r ∈ s.roles := (h.roles r (hrname ▸ hname)).1 hr
      exact roleNamed?_eq_none_iff.1 hfound r hold hrname
    rw [snapshot_of_none hfound, snapshot_of_none (roleNamed?_eq_none_iff.2 hnone)]

end Store

/-! ## What is told -/

/-- The row tells what became of the role of a template, given the role before and after. -/
structure AppliedRole.Tells (row : AppliedRole) (d : RoleTemplate) (before after : Snapshot) :
    Prop where
  /-- It has the name of the template, -/
  name : row.name = d.name
  /-- the identity of the role after, -/
  id : after.role.map (·.id) = some row.id
  /-- says whether there was none before, -/
  outcome : row.outcome = .created ↔ before.role = none
  /-- counts the grants before, -/
  grantsBefore : row.grantsBefore = before.grants.length
  /-- counts the grants after, -/
  grantsAfter : row.grantsAfter = after.grants.length
  /-- and there is one of these for each line. -/
  lines : row.grantsAfter = d.lines.length

/-- The step tells what the template made of the store `s` in the store `t`. -/
structure RoleStep.Tells (step : RoleStep) (d : RoleTemplate) (s t : Store) : Prop where
  /-- It shows the role before, -/
  before : step.before = s.snapshot d.name
  /-- the role after, -/
  after : step.after = t.snapshot d.name
  /-- and what became of it. -/
  applied : step.applied.Tells d (s.snapshot d.name) (t.snapshot d.name)

/-- The report tells what the templates made of the store `s` in the store `t`. -/
structure ApplyReport.Tells (report : ApplyReport) (ds : List RoleTemplate) (s t : Store) :
    Prop where
  /-- It shows the role of each template before, -/
  before : report.before = ds.map fun d => s.snapshot d.name
  /-- the role of each template after, -/
  after : report.after = ds.map fun d => t.snapshot d.name
  /-- and what became of each role. -/
  roles : List.Forall₂ (fun d row => row.Tells d (s.snapshot d.name) (t.snapshot d.name)) ds
    report.roles

/-- Only what is under the name of the template matters. -/
theorem RoleStep.Tells.congr {step : RoleStep} {d : RoleTemplate} {s t s' t' : Store}
    (h : step.Tells d s t) (hs : s.snapshot d.name = s'.snapshot d.name)
    (ht : t.snapshot d.name = t'.snapshot d.name) : step.Tells d s' t' :=
  ⟨hs ▸ h.before, ht ▸ h.after, hs ▸ ht ▸ h.applied⟩

theorem map_eq_map_of_forall₂ {α β γ : Type} {f : α → γ} {g : β → γ} {xs : List α} {ys : List β}
    (h : List.Forall₂ (fun x y => g y = f x) xs ys) : ys.map g = xs.map f := by
  induction h with
  | nil => rfl
  | cons hxy _ ih => rw [List.map_cons, List.map_cons, hxy, ih]

/-- A report tells what its steps tell. -/
theorem ApplyReport.Tells.of_steps {run scenario : String} {ds : List RoleTemplate}
    {steps : List RoleStep} {s t : Store}
    (h : List.Forall₂ (fun d step => step.Tells d s t) ds steps) :
    (ofSteps run scenario steps).Tells ds s t where
  before := map_eq_map_of_forall₂ (h.imp fun _ _ htells => htells.before)
  after := map_eq_map_of_forall₂ (h.imp fun _ _ htells => htells.after)
  roles := List.forall₂_map_right_iff.2 (h.imp fun _ _ htells => htells.applied)

/-! ## What runs tell -/

section Run

variable {now : Stamp} {s t : Store}

/-- Settling a role looks up what there was before. -/
theorem before_of_run {u : Store} {d : RoleTemplate} {p : Role × Snapshot}
    (h : ((Transaction.memory now).settleRole d).run s = (.ok p, u)) :
    p.2 = s.snapshot d.name := by
  rw [Transaction.settleRole, Action.run_bind_of_ok (Transaction.run_roleNamed_memory now s d.name)]
    at h
  rw [Store.snapshot, Store.grantsNamed, Store.current?]
  cases hnamed : s.roleNamed? d.name with
  | some old =>
    rw [hnamed] at h
    dsimp only at h
    rw [Action.run_bind_of_ok (Transaction.run_grantsOfRole_memory now s old.id),
      Action.run_bind_eq_ok_iff] at h
    obtain ⟨role, t, -, hpure⟩ := h
    cases hpure
    rfl
  | none =>
    rw [hnamed] at h
    dsimp only at h
    rw [Action.run_bind_eq_ok_iff] at h
    obtain ⟨role, t, -, hpure⟩ := h
    cases hpure
    rfl

/-- The step of a template tells what it made. -/
theorem tells_of_run {d : RoleTemplate} {step : RoleStep} (hs : s.ReachableInRange)
    (hroom : s.Room 1 d.lines.length)
    (h : ((Transaction.memory now).applyRole d).run s = (.ok step, t)) : step.Tells d s t := by
  have ht : t.ReachableInRange :=
    ((Transaction.applyRole_spends now d).of_run (k := 0) (l := 0) hs hroom h).1
  obtain ⟨role, before, u, hsettle, hsettled, hrefilled, rfl⟩ := settled_refilled_of_run hs hroom h
  obtain rfl : before = s.snapshot d.name := before_of_run hsettle
  have hrole : role ∈ t.roles := hrefilled.roles ▸ hsettled.mem_roles.2 (.inl rfl)
  have hafter : t.snapshot d.name = ⟨d.name, some role, t.grantsOfRole role.id⟩ :=
    hsettled.name ▸ ht.coherent.snapshot_name hrole
  have hcount : (t.grantsOfRole role.id).length = d.lines.length := by
    have hlength := hrefilled.grants.length_eq
    rwa [List.length_map, List.length_map] at hlength
  refine ⟨rfl, hafter.symm, rfl, ?_, ?_, rfl, ?_, hcount⟩
  · rw [hafter]
    rfl
  · cases (s.snapshot d.name).role <;> simp
  · rw [hafter]

/-- The first of several templates with different names tells what it made, and leaves what there is
under the other names. -/
theorem first_tells_of_run {d : RoleTemplate} {rest : List RoleTemplate} {step : RoleStep}
    {u : Store} (hs : s.ReachableInRange)
    (hroom : s.Room (d :: rest).length (lineCount (d :: rest)))
    (hlines : ∀ l ∈ d.lines, l.instanceHasItem = true)
    (hnames : ((d :: rest).map (·.name)).Nodup)
    (h : ((Transaction.memory now).applyRole d).run s = (.ok step, u)) :
    step.Tells d s u ∧ u.ReachableInRange ∧ u.Room rest.length (lineCount rest) ∧
      ∀ e ∈ rest, u.snapshot e.name = s.snapshot e.name := by
  obtain ⟨hd, hu, huroom, hne⟩ := first_applied_of_run hs hroom hlines hnames h
  refine ⟨tells_of_run hs hroom.first h, hu, huroom, fun e he => ?_⟩
  refine hd.snapshot_eq hs.coherent hu.coherent fun d' hd' => ?_
  rw [List.mem_singleton.1 hd']
  exact (hne e he).symm

/-- The steps of templates with different names tell what all of them made. -/
theorem tells_of_run_all {ds : List RoleTemplate} {steps : List RoleStep}
    (hs : s.ReachableInRange) (hroom : s.Room ds.length (lineCount ds))
    (hlines : ∀ d ∈ ds, ∀ l ∈ d.lines, l.instanceHasItem = true)
    (hnames : (ds.map (·.name)).Nodup)
    (h : ((Transaction.memory now).applyRoles ds).run s = (.ok steps, t)) :
    List.Forall₂ (fun d step => step.Tells d s t) ds steps := by
  -- On the templates; each step was made between stores that differ from `s` and `t` elsewhere.
  induction ds generalizing s steps with
  | nil =>
    cases h
    exact .nil
  | cons d rest ih =>
    obtain ⟨step, others, u, hstep, hrest, rfl⟩ := Transaction.run_applyRoles_cons_eq_ok_iff.1 h
    obtain ⟨htells, hu, huroom, hearlier⟩ :=
      first_tells_of_run hs hroom (hlines d List.mem_cons_self) hnames hstep
    have hrestlines := fun e he => hlines e (List.mem_cons_of_mem d he)
    rw [List.map_cons, List.nodup_cons] at hnames
    have ht : t.ReachableInRange :=
      ((Transaction.applyRoles_spends now rest).of_run (k := 0) (l := 0) hu huroom hrest).1
    have hds : u.Applied t rest := applied_of_run_all hu huroom hrestlines hnames.2 hrest
    have hlater : t.snapshot d.name = u.snapshot d.name :=
      hds.snapshot_eq hu.coherent ht.coherent fun e he heq =>
        hnames.1 (heq ▸ List.mem_map_of_mem he)
    refine .cons (htells.congr rfl hlater.symm) ?_
    have hothers := ih hu huroom hrestlines hnames.2 hrest
    exact ((List.forall₂_and_left _ _).2 ⟨hearlier, hothers⟩).imp fun e other he =>
      he.2.congr he.1 rfl

end Run

/-! ## Applying once more -/

/-- What the grant was stored from: all of it but its identity. -/
def Grant.draft (g : Grant) : Draft := { toTerms := g.toTerms, owner := g.owner }

/-- The store `u` is the store `t` with the grants of the roles of templates stored anew. -/
structure Store.Renewed (t u : Store) (ds : List RoleTemplate) : Prop where
  /-- The roles are the same. -/
  roles : u.roles = t.roles
  /-- The same users hold the same roles. -/
  links : u.links = t.links
  /-- All other grants are the same. -/
  others : ∀ g, (∀ d ∈ ds, ∀ r ∈ t.roles, r.name = d.name → g.owner ≠ .role r.id) →
    (g ∈ u.grants ↔ g ∈ t.grants)
  /-- The grants of these roles are listed the same, up to their identities. -/
  grants : ∀ d ∈ ds, (u.snapshot d.name).grants.map (·.draft) =
    (t.snapshot d.name).grants.map (·.draft)

/-- The order of a listing, as far as it is about what grants say. -/
def Terms.listing : Terms → Terms → Ordering :=
  compareLex (compareOn (·.area)) <| compareLex (compareOn (·.item)) <|
    compareLex (compareOn (·.itemId)) (compareOn (·.action))

instance : TransCmp Terms.listing := inferInstanceAs (TransCmp (compareLex _ _))

theorem Grant.listing_eq (g g' : Grant) :
    g.listing g' = (g.toTerms.listing g'.toTerms).then (compare g.id g'.id) := by
  simp only [listing, Terms.listing, compareLex, compareOn, Ordering.then_assoc]

/-- The terms of lines have different places in a listing. -/
theorem GrantLine.terms_eq_of_listing {l l' : GrantLine} (h : l.terms.listing l'.terms = .eq) :
    l.terms = l'.terms := by
  simp only [Terms.listing, compareLex_eq_eq, compareOn, LawfulEqCmp.compare_eq_iff_eq] at h
  obtain ⟨harea, hitem, hid, haction⟩ := h
  simp only [terms] at harea hitem hid haction ⊢
  rw [harea, hitem, hid, haction]

namespace Store

theorem listing_grantsOfRole (s : Store) (id : RoleId) :
    ((s.grantsOfRole id).map (·.toTerms)).Pairwise fun a b => (a.listing b).isLE := by
  refine List.pairwise_map.2 ((pairwise_sortBy Grant.listing _).imp fun {g g'} h => ?_)
  rw [Grant.listing_eq] at h
  exact (Ordering.isLE_then_iff_and.1 h).1

/-- Roles whose grants are those of the same lines have them listed alike. -/
theorem terms_grantsOfRole_eq {s t : Store} {id id' : RoleId} {ls : List GrantLine}
    (hs : ((s.grantsOfRole id).map (·.toTerms)).Perm (ls.map (·.terms)))
    (ht : ((t.grantsOfRole id').map (·.toTerms)).Perm (ls.map (·.terms))) :
    (t.grantsOfRole id').map (·.toTerms) = (s.grantsOfRole id).map (·.toTerms) := by
  refine List.Perm.eq_of_pairwise (fun a b ha hb hab hba => ?_) (t.listing_grantsOfRole id')
    (s.listing_grantsOfRole id) (ht.trans hs.symm)
  obtain ⟨l, -, rfl⟩ := List.mem_map.1 (ht.mem_iff.1 ha)
  obtain ⟨l', -, rfl⟩ := List.mem_map.1 (hs.mem_iff.1 hb)
  exact GrantLine.terms_eq_of_listing (OrientedCmp.isLE_antisymm hab hba)

theorem map_draft_grantsOfRole (s : Store) (id : RoleId) : (s.grantsOfRole id).map (·.draft) =
    ((s.grantsOfRole id).map (·.toTerms)).map fun terms => ⟨terms, .role id⟩ := by
  rw [List.map_map]
  refine List.map_congr_left fun g hg => ?_
  rw [Grant.draft, (mem_grantsOfRole.1 hg).2]
  rfl

variable {s t u : Store} {ds : List RoleTemplate}

/-- What a template makes is the same role each time. -/
theorem Applied.exists_made_again (h : s.Applied t ds) (h' : t.Applied u ds) {d : RoleTemplate}
    (hd : d ∈ ds) : ∃ r, d.Makes s t r ∧ d.Makes t u r := by
  obtain ⟨r, hr⟩ := h.made d hd
  obtain ⟨r', hr'⟩ := h'.made d hd
  obtain ⟨hid, hname, hprofile⟩ := hr'.kept r hr.mem hr.name
  have hflags : r'.flags = r.flags := hr'.flags.trans hr.flags.symm
  have hsame : r' = r := by
    cases r
    cases r'
    simp_all only
  exact ⟨r, hr, hsame ▸ hr'⟩

/-- Templates that are applied for the second time make nothing but grants anew. -/
theorem Applied.again (h : s.Applied t ds) (h' : t.Applied u ds) (ht : t.Coherent)
    (hu : u.Coherent) : t.Renewed u ds := by
  have hroles : u.roles = t.roles := by
    refine Table.ext_mem fun r => ?_
    by_cases hr : ∃ d ∈ ds, d.name = r.name
    · obtain ⟨d, hd, hname⟩ := hr
      obtain ⟨made, hmade, hagain⟩ := h.exists_made_again h' hd
      constructor
      · intro hmem
        rw [hagain.only r hmem hname.symm]
        exact hmade.mem
      · intro hmem
        rw [hmade.only r hmem hname.symm]
        exact hagain.mem
    · exact h'.roles r fun d hd hname => hr ⟨d, hd, hname⟩
  refine ⟨hroles, h'.links, fun g hother => ?_, fun d hd => ?_⟩
  · cases howner : g.owner with
    | user id => exact h'.users g id howner
    | role id =>
      by_cases hrole : ∃ r ∈ t.roles, r.id = id
      · obtain ⟨r, hr, rfl⟩ := hrole
        exact h'.grants r hr (fun d hd hname => hother d hd r hr hname.symm howner) g howner
      · -- A grant of a role that is not there is in neither store.
        refine iff_of_false (fun hg => hrole ?_) fun hg => hrole (ht.owned g hg id howner)
        exact hroles ▸ hu.owned g hg id howner
  · obtain ⟨r, hmade, hagain⟩ := h.exists_made_again h' hd
    rw [← hmade.name, ht.snapshot_name hmade.mem, hu.snapshot_name hagain.mem,
      map_draft_grantsOfRole, map_draft_grantsOfRole,
      terms_grantsOfRole_eq hmade.grants hagain.grants]

/-- Roles that were made before take their templates again. -/
theorem Applied.takes (h : s.Applied t ds) : ∀ d ∈ ds, t.Takes d := by
  intro d hd
  obtain ⟨r, hr⟩ := h.made d hd
  exact .inl ⟨r, hr.mem, hr.name⟩

theorem Applied.exists_role_snapshot (h : s.Applied t ds) (ht : t.Coherent) :
    ∀ d ∈ ds, ∃ r, (t.snapshot d.name).role = some r := by
  intro d hd
  obtain ⟨r, hr⟩ := h.made d hd
  exact ⟨r, by rw [← hr.name, ht.snapshot_name hr.mem]⟩

end Store

/-- Where all roles were there before, the report says that each of them was updated. -/
theorem ApplyReport.Tells.outcomes {report : ApplyReport} {ds : List RoleTemplate} {s t : Store}
    (h : report.Tells ds s t) (hs : ∀ d ∈ ds, ∃ r, (s.snapshot d.name).role = some r) :
    report.roles.map (·.outcome) = ds.map fun _ => .updated := by
  refine map_eq_map_of_forall₂ (((List.forall₂_and_left _ _).2 ⟨hs, h.roles⟩).imp ?_)
  rintro d row ⟨⟨r, hr⟩, hrow⟩
  cases houtcome : row.outcome with
  | updated => rfl
  | created =>
    have hnone := hrow.outcome.1 houtcome
    rw [hr] at hnone
    cases hnone

/-! ## Calls -/

/-- What is planned from a scenario in order has no line that is narrowed wrongly and no name
twice. -/
theorem ApplyCall.orderly_of_plan {l : Library} {call : ApplyCall} {sc : Scenario}
    {ds : List RoleTemplate} (hplan : call.plan l = .ok (sc, ds)) (hcheck : sc.check = .ok ()) :
    (∀ d ∈ ds, ∀ line ∈ d.lines, line.instanceHasItem = true) ∧ (ds.map (·.name)).Nodup := by
  obtain ⟨-, hroles, hnames⟩ := Scenario.check_eq_ok_iff.1 hcheck
  have hsub : ds.Sublist sc.roles := sublist_of_plan hplan
  exact ⟨fun d hd => (hroles d (hsub.subset hd)).instanceHasItem,
    (hsub.map (·.name)).nodup hnames⟩

/-- **A report tells the truth, and applying again makes nothing but grants anew.**  If a scenario,
or one of its roles, is applied to a store with room for the new identities, then the report shows
each role as it was before the whole run and as it is after it.  Applied once more, whenever that
is, the same templates only update roles: the second report begins where the first one ended, and
nothing changes but the identities of the grants of these roles. -/
theorem apply_tells_and_repeats {now : Stamp} {s : Store} (hs : s.ReachableInRange) (l : Library)
    (run : String) (call : ApplyCall) {sc : Scenario} {ds : List RoleTemplate}
    (hplan : call.plan l = .ok (sc, ds)) (hroom : s.Room ds.length (lineCount ds))
    {report : ApplyReport} {t : Store}
    (h : (call.action (.memory now) l run).run s = (.ok report, t)) :
    report.run = run ∧ report.scenario = sc.name ∧ report.Tells ds s t ∧
      (t.Room ds.length (lineCount ds) → ∀ later again, ∃ report' u,
        (call.action (.memory later) l again).run t = (.ok report', u) ∧ report'.Tells ds t u ∧
          report'.roles.map (·.outcome) = (ds.map fun _ => .updated) ∧
          report'.before = report.after ∧ t.Renewed u ds) := by
  obtain ⟨hcheck, steps, rfl, hrun⟩ := ApplyCall.run_action_memory_eq_ok hplan h
  obtain ⟨hlines, hnames⟩ := ApplyCall.orderly_of_plan hplan hcheck
  have ht : t.ReachableInRange :=
    ((Transaction.applyRoles_spends now ds).of_run (k := 0) (l := 0) hs hroom hrun).1
  have happlied : s.Applied t ds := applied_of_run_all hs hroom hlines hnames hrun
  have htells : (ApplyReport.ofSteps run sc.name steps).Tells ds s t :=
    .of_steps (tells_of_run_all hs hroom hlines hnames hrun)
  refine ⟨rfl, rfl, htells, fun hmore later again => ?_⟩
  obtain ⟨steps', u, hrun'⟩ := exists_run_applyRoles later ht hmore hlines hnames happlied.takes
  have hu : u.ReachableInRange :=
    ((Transaction.applyRoles_spends later ds).of_run (k := 0) (l := 0) ht hmore hrun').1
  have happlied' : t.Applied u ds := applied_of_run_all ht hmore hlines hnames hrun'
  have htells' : (ApplyReport.ofSteps again sc.name steps').Tells ds t u :=
    .of_steps (tells_of_run_all ht hmore hlines hnames hrun')
  exact ⟨_, u, ApplyCall.run_action_memory_of_ok hplan hcheck hrun', htells',
    htells'.outcomes (happlied.exists_role_snapshot ht.coherent),
    htells'.before.trans htells.after.symm, happlied.again happlied' ht.coherent hu.coherent⟩

/-- The scenario for the press updates one role of the teams and creates the other one, and updates
both when it is applied again. -/
theorem apply_tells_and_repeats_press : ∃ report t report' u,
    ((Backend.memory newYear).applyScenario "1" press).run teams = (.ok report, t) ∧
    report.roles.map (·.outcome) = [.updated, .created] ∧ report.Tells press.roles teams t ∧
    ((Backend.memory newYear).applyScenario "2" press).run t = (.ok report', u) ∧
    report'.roles.map (·.outcome) = [.updated, .updated] ∧ report'.before = report.after ∧
    t.Renewed u press.roles := by
  obtain ⟨report, t, hrun⟩ := exists_run_press
  have houtcomes : (((Backend.memory newYear).applyScenario "1" press).run teams).1.toOption.map
      (fun report => report.roles.map (·.outcome)) = some [.updated, .created] := by decide +kernel
  have hmore : (((Backend.memory newYear).applyScenario "1" press).run teams).2.Room
      press.roles.length (lineCount press.roles) := by
    constructor <;> decide +kernel
  rw [hrun] at houtcomes hmore
  obtain ⟨-, -, htells, hagain⟩ := apply_tells_and_repeats reachableInRange_teams .empty "1"
    (.applyScenario press) rfl room_press hrun
  obtain ⟨report', u, hrun', -, houtcomes', hbefore, hrenewed⟩ := hagain hmore newYear "2"
  exact ⟨report, t, report', u, hrun, Option.some.inj houtcomes, htells, hrun', houtcomes', hbefore,
    hrenewed⟩

end Gatehouse
