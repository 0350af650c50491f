import Gatehouse.Proofs.Export.Classification
import Gatehouse.Proofs.Template.Roster

/-!
# Exports are canonical

An export shows which actions the grants of a role give or withhold in which scopes (`Terms.shown`),
and nothing else of the grants.  Two roles that agree on this, in whatever stores, have the same
export (`Store.Twins.sameExport`).

The listing of the grants is what makes this work.  It is by section, item, instance and action
before it comes to identities, so the actions of one scope are listed in their own order.  What is
left when each is listed once depends on which there are and not on the grants they come from.

For scenarios this means that the lines of a role may be permuted and repeated
(`Scenario.Restates`).  The roles are created alike (`Store.SameRoster`) and are twins afterwards.
-/

set_option autoImplicit false

namespace Gatehouse

open Std

/-! ## What is shown -/

/-- What an export shows of a grant: its scope, its action, and whether it gives the action. -/
def Terms.shown (t : Terms) : GroupKey × String × Bool := ⟨t.groupKey, t.action, t.gives⟩

theorem Terms.shown_eq_iff {t : Terms} {k : GroupKey} {a : String} {gives : Bool} :
    t.shown = ⟨k, a, gives⟩ ↔ t.groupKey = k ∧ t.action = a ∧ t.gives = gives := by
  rw [shown, Prod.mk.injEq, Prod.mk.injEq]

/-- In their stores the roles have the same identity, name and flags, and an export shows the same
of their grants. -/
structure Store.Twins (s : Store) (r : Role) (t : Store) (r' : Role) : Prop where
  /-- The first role is in the first store, -/
  left : r ∈ s.roles
  /-- and the second role in the second one. -/
  right : r' ∈ t.roles
  /-- They have the same identity, -/
  id : r.id = r'.id
  /-- the same name, -/
  name : r.name = r'.name
  /-- the same flags, -/
  flags : r.flags = r'.flags
  /-- and grants that give and withhold the same actions in the same scopes. -/
  grants : ∀ v, (∃ x ∈ s.grants, x.owner = .role r.id ∧ x.shown = v) ↔
    ∃ x ∈ t.grants, x.owner = .role r'.id ∧ x.shown = v

/-- Both stores have a role with the name, and give the same export of it in every format, whenever
they are asked. -/
def Store.SameExport (s t : Store) (name : String) : Prop :=
  ∃ e : RoleExport, ∀ now,
    ((Backend.memory now).exportRole name).run s = (.ok e, s) ∧
    ((Backend.memory now).exportRole name).run t = (.ok e, t) ∧
    ∀ format,
      ((Backend.memory now).exportText name format).run s = (.ok (e.render format), s) ∧
      ((Backend.memory now).exportText name format).run t = (.ok (e.render format), t)

/-! ## Listings and actions -/

/-- In a listing, terms on one scope are in the order of their actions. -/
theorem Terms.isLE_action_of_listing {a b : Terms} (hkey : a.groupKey = b.groupKey)
    (h : (a.listing b).isLE = true) : (compare a.action b.action).isLE = true := by
  injection hkey with harea hitem hid
  simpa only [listing, compareLex, compareOn, harea, hitem, hid, ReflCmp.compare_self,
    Ordering.eq_then] using h

/-- The actions of some of the grants that a role has on a scope are in order. -/
theorem Store.ascending_distinctActions (s : Store) (id : RoleId) (k : GroupKey)
    (p : Grant → Bool) : Ascending compare
      (distinctActions (((s.grantsOfRole id).filter fun x => x.groupKey == k).filter p)) := by
  refine (firstOccurrences_eraseDups _).ascending (List.pairwise_map.2 ?_)
  have hlisted := ((List.pairwise_map.1 (s.listing_grantsOfRole id)).filter
    fun x => x.groupKey == k).filter p
  refine hlisted.imp_of_mem fun {x y} hx hy hle => ?_
  have hkey : ∀ z ∈ ((s.grantsOfRole id).filter fun x => x.groupKey == k).filter p,
      z.groupKey = k := fun z hz =>
    eq_of_beq (List.mem_filter.1 (List.mem_filter.1 hz).1).2
  exact Terms.isLE_action_of_listing ((hkey x hx).trans (hkey y hy).symm) hle

/-- Grants on the same scopes have the same list of scopes. -/
theorem groupKeys_congr {grants grants' : List Grant}
    (h : ∀ k, (∃ x ∈ grants, x.groupKey = k) ↔ ∃ x ∈ grants', x.groupKey = k) :
    groupKeys grants = groupKeys grants' :=
  congrArg Table.rows <| Table.ext_mem fun k =>
    mem_groupKeys.trans <| (h k).trans mem_groupKeys.symm

/-! ## Twins -/

namespace Store

variable {s t : Store} {r r' : Role}

theorem exists_shown_iff {id : RoleId} {v : GroupKey × String × Bool} :
    (∃ x ∈ s.grants, x.owner = .role id ∧ x.shown = v) ↔ ∃ x ∈ s.grantsOfRole id, x.shown = v := by
  simp only [mem_grantsOfRole, and_assoc]

namespace Twins

variable (h : s.Twins r t r')

include h

theorem shown_iff (v : GroupKey × String × Bool) :
    (∃ x ∈ s.grantsOfRole r.id, x.shown = v) ↔ ∃ x ∈ t.grantsOfRole r'.id, x.shown = v :=
  exists_shown_iff.symm.trans <| (h.grants v).trans exists_shown_iff

theorem groupKeys_eq : groupKeys (s.grantsOfRole r.id) = groupKeys (t.grantsOfRole r'.id) := by
  have hkey : ∀ (grants : List Grant) (k : GroupKey), (∃ x ∈ grants, x.groupKey = k) ↔
      ∃ v : GroupKey × String × Bool, v.1 = k ∧ ∃ x ∈ grants, x.shown = v := fun grants k =>
    ⟨fun ⟨x, hx, hk⟩ => ⟨x.shown, hk, x, hx, rfl⟩,
      fun ⟨_, hk, x, hx, hv⟩ => ⟨x, hx, (congrArg Prod.fst hv).trans hk⟩⟩
  refine groupKeys_congr fun k => ?_
  rw [hkey, hkey]
  exact exists_congr fun v => and_congr_right fun _ => h.shown_iff v

/-- The actions given in a scope are the same, and so are those withheld. -/
theorem distinctActions_eq (k : GroupKey) (p : Grant → Bool) (gives : Bool)
    (hp : ∀ x, p x = true ↔ x.gives = gives) :
    distinctActions (((s.grantsOfRole r.id).filter fun x => x.groupKey == k).filter p) =
      distinctActions (((t.grantsOfRole r'.id).filter fun x => x.groupKey == k).filter p) := by
  refine (s.ascending_distinctActions r.id k p).eq_of_mem_iff
    (t.ascending_distinctActions r'.id k p) fun a => ?_
  simp only [mem_distinctActions_filter, hp, ← Terms.shown_eq_iff]
  exact h.shown_iff ⟨k, a, gives⟩

/-- Twins have the same export. -/
theorem roleExport_eq : s.roleExport r = t.roleExport r' := by
  have hgroup : ∀ k : GroupKey, k.group ((s.grantsOfRole r.id).filter fun x => x.groupKey == k) =
      k.group ((t.grantsOfRole r'.id).filter fun x => x.groupKey == k) := fun k => by
    have hheld := h.distinctActions_eq k (·.gives) true fun x => Iff.rfl
    have hdisabled := h.distinctActions_eq k (!·.gives) false fun x => by rw [Bool.not_eq_true']
    rw [GroupKey.group, GroupKey.group, hheld, hdisabled]
  rw [roleExport, roleExport, RoleExport.of, RoleExport.of, h.groupKeys_eq, h.id, h.name, h.flags]
  rw [h.id] at hgroup
  rw [List.map_congr_left fun k _ => hgroup k]

theorem sameExport (hs : s.Coherent) (ht : t.Coherent) : s.SameExport t r.name := by
  refine ⟨s.roleExport r, fun now => ⟨hs.run_exportRole h.left now, ?_, fun format =>
    ⟨hs.run_exportText h.left now format, ?_⟩⟩⟩
  · rw [h.name, h.roleExport_eq]
    exact ht.run_exportRole h.right now
  · rw [h.name, h.roleExport_eq]
    exact ht.run_exportText h.right now format

end Twins

end Store

/-! ## Scenarios that say the same -/

/-- The templates say the same of their roles: lines may come in another order, and be repeated. -/
structure RoleTemplate.Restates (d d' : RoleTemplate) : Prop extends d.SameHead d' where
  /-- The lines are the same. -/
  lines : ∀ l, l ∈ d.lines ↔ l ∈ d'.lines

/-- The scenarios say the same of the same roles, in the same order. -/
structure Scenario.Restates (sc sc' : Scenario) : Prop where
  /-- The name is the same. -/
  name : sc.name = sc'.name
  /-- The templates say the same, one by one. -/
  roles : List.Forall₂ RoleTemplate.Restates sc.roles sc'.roles

theorem RoleTemplate.Restates.inOrder_iff {d d' : RoleTemplate} (h : d.Restates d') :
    d.InOrder ↔ d'.InOrder := by
  rw [InOrder, InOrder, h.name]
  exact and_congr_left' (forall_congr' fun l => imp_congr_left (h.lines l))

theorem forall₂_names {ds ds' : List RoleTemplate}
    (h : List.Forall₂ RoleTemplate.Restates ds ds') : ds'.map (·.name) = ds.map (·.name) :=
  map_eq_map_of_forall₂ (h.imp fun _ _ hd => hd.name.symm)

/-- Each entry of the first list has a partner in the second one. -/
theorem exists_of_forall₂ {α β : Type} {R : α → β → Prop} {xs : List α} {ys : List β}
    (h : List.Forall₂ R xs ys) {x : α} (hx : x ∈ xs) : ∃ y ∈ ys, R x y := by
  induction h with
  | nil => cases hx
  | @cons a b _ _ hab _ ih =>
    rcases List.mem_cons.1 hx with rfl | hx
    · exact ⟨b, List.mem_cons_self, hab⟩
    · obtain ⟨y, hy, hxy⟩ := ih hx
      exact ⟨y, List.mem_cons_of_mem b hy, hxy⟩

theorem RoleTemplate.Restates.symm {d d' : RoleTemplate} (h : d.Restates d') : d'.Restates d where
  name := h.name.symm
  canLogin := h.canLogin.symm
  isAdmin := h.isAdmin.symm
  lines l := (h.lines l).symm

theorem forall₂_restates_symm {ds ds' : List RoleTemplate}
    (h : List.Forall₂ RoleTemplate.Restates ds ds') : List.Forall₂ RoleTemplate.Restates ds' ds :=
  (h.imp fun _ _ hd => hd.symm).flip

/-- If the one is in order, so is the other. -/
theorem Scenario.Restates.check_eq_ok {sc sc' : Scenario} (h : sc.Restates sc')
    (hcheck : sc.check = .ok ()) : sc'.check = .ok () := by
  obtain ⟨hname, hroles, hnames⟩ := Scenario.check_eq_ok_iff.1 hcheck
  refine Scenario.check_eq_ok_iff.2 ⟨h.name ▸ hname, fun d' hd' => ?_, ?_⟩
  · obtain ⟨d, hd, hdd⟩ := exists_of_forall₂ (forall₂_restates_symm h.roles) hd'
    exact hdd.inOrder_iff.2 (hroles d hd)
  · rw [forall₂_names h.roles]
    exact hnames

/-! ## Applying either -/

section Applied

variable {s t t' : Store} {ds ds' : List RoleTemplate}

/-- What grants that are those of some lines show is what the lines say. -/
theorem exists_shown_iff_lines {role : RoleId} {ls : List GrantLine}
    (h : ((t.grantsOfRole role).map (·.toTerms)).Perm (ls.map (·.terms)))
    (v : GroupKey × String × Bool) :
    (∃ x ∈ t.grants, x.owner = .role role ∧ x.shown = v) ↔ ∃ l ∈ ls, l.terms.shown = v := by
  have hterms : (∃ x ∈ t.grantsOfRole role, x.shown = v) ↔
      ∃ terms ∈ (t.grantsOfRole role).map (·.toTerms), terms.shown = v := by
    simp only [List.mem_map, exists_exists_and_eq_and]
  rw [Store.exists_shown_iff, hterms]
  simp only [h.mem_iff, List.mem_map, exists_exists_and_eq_and]

/-- The roles of templates that say the same are twins, and so are the roles that neither is
about. -/
theorem Store.Applied.exists_twin (h : s.Applied t ds) (h' : s.Applied t' ds') (hs : s.Coherent)
    (ht : t.Coherent) (ht' : t'.Coherent) (hds : List.Forall₂ RoleTemplate.Restates ds ds')
    (hroster : t.SameRoster t') {r : Role} (hr : r ∈ t.roles) : ∃ r', t.Twins r t' r' := by
  have hfound := hroster.roleNamed? r.name
  rw [ht.roleNamed?_eq_some_iff.2 ⟨hr, rfl⟩] at hfound
  generalize hname : t'.roleNamed? r.name = found at hfound
  cases hfound with
  | @some _ r' halike =>
    obtain ⟨hr', hname'⟩ := ht'.roleNamed?_eq_some_iff.1 hname
    refine ⟨r', hr, hr', halike.id, halike.name, halike.flags, ?_⟩
    by_cases hd : ∃ d ∈ ds, d.name = r.name
    · obtain ⟨d, hd, hdname⟩ := hd
      obtain ⟨d', hd', hdd⟩ := exists_of_forall₂ hds hd
      obtain ⟨q, hq⟩ := h.made d hd
      obtain ⟨q', hq'⟩ := h'.made d' hd'
      obtain rfl : r = q := hq.only r hr hdname.symm
      obtain rfl : r' = q' := hq'.only r' hr' (hname'.trans (hdname.symm.trans hdd.name))
      intro v
      rw [exists_shown_iff_lines hq.grants, exists_shown_iff_lines hq'.grants]
      exact exists_congr fun l => and_congr_left fun _ => hdd.lines l
    · have hother : ∀ d ∈ ds, d.name ≠ r.name := fun d hmem hdname => hd ⟨d, hmem, hdname⟩
      have hother' : ∀ d' ∈ ds', d'.name ≠ r'.name := fun d' hmem hdname => by
        obtain ⟨d, hmem, hdd⟩ := exists_of_forall₂ (forall₂_restates_symm hds) hmem
        exact hother d hmem (hdd.name.symm.trans (hdname.trans hname'))
      have hold : r ∈ s.roles := (h.roles r hother).1 hr
      obtain rfl : r = r' := hs.names r hold r' ((h'.roles r' hother').1 hr') halike.name
      exact fun v => exists_congr fun x => and_congr_left fun hx =>
        (h.grants r hold hother x hx.1).trans (h'.grants r hold hother' x hx.1).symm

/-- A run that goes through shows that the store takes all templates. -/
theorem takes_of_run_applyRoles {now : Stamp} {steps : List RoleStep} (hs : s.ReachableInRange)
    (hroom : s.Room ds.length (lineCount ds))
    (hlines : ∀ d ∈ ds, ∀ l ∈ d.lines, l.instanceHasItem = true)
    (hnames : (ds.map (·.name)).Nodup)
    (h : ((Transaction.memory now).applyRoles ds).run s = (.ok steps, t)) :
    ∀ d ∈ ds, s.Takes d := by
  intro d hd
  by_contra hnot
  obtain ⟨u, hfails⟩ := run_applyRoles_of_not_takes now hs hroom hlines hnames ⟨d, hd, hnot⟩
  rw [hfails] at h
  cases h

theorem Store.Takes.restated {d d' : RoleTemplate} (h : s.Takes d) (hd : d.Restates d') :
    s.Takes d' := by
  rw [Takes, ← hd.name]
  exact h

/-- If a scenario can be applied, so can one that says the same, and afterwards the exports of all
roles are the same. -/
theorem ApplyCall.exists_run_restated {call call' : ApplyCall} {l l' : Library} {sc sc' : Scenario}
    (hs : s.ReachableInRange) (hplan : call.plan l = .ok (sc, ds))
    (hplan' : call'.plan l' = .ok (sc', ds')) (hsc : sc.Restates sc')
    (hds : List.Forall₂ RoleTemplate.Restates ds ds') (hroom : s.Room ds.length (lineCount ds))
    (hroom' : s.Room ds'.length (lineCount ds')) {now : Stamp} {run : String}
    {report : ApplyReport} (h : (call.action (.memory now) l run).run s = (.ok report, t))
    (later : Stamp) (run' : String) :
    ∃ report' t', (call'.action (.memory later) l' run').run s = (.ok report', t') ∧
      ∀ r ∈ t.roles, t.SameExport t' r.name := by
  obtain ⟨hcheck, steps, rfl, hrun⟩ := run_action_memory_eq_ok hplan h
  have hcheck' := hsc.check_eq_ok hcheck
  obtain ⟨hlines, hnames⟩ := orderly_of_plan hplan hcheck
  obtain ⟨hlines', hnames'⟩ := orderly_of_plan hplan' hcheck'
  have htakes : ∀ d' ∈ ds', s.Takes d' := fun d' hd' => by
    obtain ⟨d, hd, hdd⟩ := exists_of_forall₂ (forall₂_restates_symm hds) hd'
    exact (takes_of_run_applyRoles hs hroom hlines hnames hrun d hd).restated hdd.symm
  obtain ⟨steps', t', hrun'⟩ := exists_run_applyRoles later hs hroom' hlines' hnames' htakes
  have ht : t.ReachableInRange :=
    ((Transaction.applyRoles_spends now ds).of_run (k := 0) (l := 0) hs hroom hrun).1
  have ht' : t'.ReachableInRange :=
    ((Transaction.applyRoles_spends later ds').of_run (k := 0) (l := 0) hs hroom' hrun').1
  have hroster : t.SameRoster t' := Transaction.sameRoster_of_run_applyRoles
    (hds.imp fun _ _ hd => hd.toSameHead) (.refl s) hrun hrun'
  refine ⟨_, t', run_action_memory_of_ok hplan' hcheck' hrun', fun r hr => ?_⟩
  obtain ⟨r', htwins⟩ := (applied_of_run_all hs hroom hlines hnames hrun).exists_twin
    (applied_of_run_all hs hroom' hlines' hnames' hrun') hs.coherent ht.coherent ht'.coherent hds
    hroster hr
  exact htwins.sameExport ht.coherent ht'.coherent

end Applied

/-- **Exports are canonical.**  Roles with the same identity, name and flags, of whose grants an
export shows the same, have the same export in any two stores that arise.  So if a scenario, or one
of its roles, is applied to a store with room for the new identities, the exports afterwards are
those that there would be if the lines of its roles had been permuted or repeated. -/
theorem exports_are_canonical :
    (∀ {s t : Store} {r r' : Role}, s.Reachable → t.Reachable → s.Twins r t r' →
      s.SameExport t r.name) ∧
    ∀ (l l' : Library) (call call' : ApplyCall) {sc sc' : Scenario} {ds ds' : List RoleTemplate}
      {s t : Store} {now : Stamp} {run : String} {report : ApplyReport}, s.ReachableInRange →
      call.plan l = .ok (sc, ds) → call'.plan l' = .ok (sc', ds') → sc.Restates sc' →
      List.Forall₂ RoleTemplate.Restates ds ds' →
      s.Room ds.length (lineCount ds) → s.Room ds'.length (lineCount ds') →
      (call.action (.memory now) l run).run s = (.ok report, t) → ∀ later run',
        ∃ report' t', (call'.action (.memory later) l' run').run s = (.ok report', t') ∧
          (∀ d ∈ ds, t.SameExport t' d.name) ∧ ∀ r ∈ t.roles, t.SameExport t' r.name := by
  constructor
  · intro s t r r' hs ht htwins
    exact htwins.sameExport hs.coherent ht.coherent
  · intro l l' call call' sc sc' ds ds' s t now run report hs hplan hplan' hsc hds hroom hroom' h
      later run'
    obtain ⟨report', t', hrun', hexports⟩ :=
      ApplyCall.exists_run_restated hs hplan hplan' hsc hds hroom hroom' h later run'
    refine ⟨report', t', hrun', fun d hd => ?_, hexports⟩
    obtain ⟨r, hr⟩ := (call_leaves_applied hs l run call hplan hroom h).made d hd
    exact hr.name ▸ hexports r hr.mem

/-- The teams, after the grants of the writers were taken away and given again in another order: one
with a remark, and one twice, denying and not in force. -/
def restoredTeams : Store := teams.afterAll newYear
  [.clearRole ⟨1⟩, .createGrant ((Draft.new (.role ⟨1⟩) "news" "see").onItem "draft").deny,
    .createGrant (((Draft.new (.role ⟨1⟩) "news" "see").onItem "draft").inForce false),
    .createGrant ((Draft.new (.role ⟨1⟩) "news" "see").withExtra "restored")]

/-- The scenario for the press with the lines of the writers turned round, and one of them given
once more. -/
def pressAgain : Scenario where
  name := "press"
  roles :=
    [{ name := "writers", canLogin := true,
       lines :=
         [{ area := "news", item := some "draft", action := "post", itemId := some 5 },
           { area := "news", item := some "draft", action := "post", itemId := some 0 },
           { area := "news", action := "see" },
           { area := "news", item := some "", action := "see" },
           { area := "news", action := "see" }] },
      { name := "printers", isAdmin := true, lines := [{ area := "paper", action := "load" }] }]

/-- The writers are exported as before, and it makes no difference which of the two scenarios for
the press is applied. -/
theorem exports_are_canonical_teams :
    restoredTeams.Reachable ∧ teams.grants ≠ restoredTeams.grants ∧
      teams.SameExport restoredTeams "writers" ∧
      press.Restates pressAgain ∧ ∃ report t report' t',
        ((Backend.memory newYear).applyScenario "1" press).run teams = (.ok report, t) ∧
        ((Backend.memory newYear).applyScenario "2" pressAgain).run teams = (.ok report', t') ∧
        (∀ d ∈ press.roles, t.SameExport t' d.name) ∧ t.SameExport t' "editors" := by
  have hwhole : (Draft.new (.role ⟨1⟩) "news" "see").Made := .new _ _ _
  have hrestored : restoredTeams.ReachableInRange := reachableInRange_teams.afterAll
    ⟨trivial, by decide +kernel, (hwhole.onItem _).withRule _, by decide +kernel,
      (hwhole.onItem _).inForce _, by decide +kernel, hwhole.withExtra _, by decide +kernel,
      trivial⟩
  let writers : Role := ⟨⟨1⟩, "writers", ⟨false, false, false⟩, some newYear⟩
  have hgiven : ∀ x ∈ teams.grants.rows, x.owner = .role ⟨1⟩ →
      ∃ y ∈ restoredTeams.grants.rows, y.owner = .role ⟨1⟩ ∧ y.shown = x.shown := by decide +kernel
  have hbefore : ∀ x ∈ restoredTeams.grants.rows, x.owner = .role ⟨1⟩ →
      ∃ y ∈ teams.grants.rows, y.owner = .role ⟨1⟩ ∧ y.shown = x.shown := by decide +kernel
  have htwins : teams.Twins writers restoredTeams writers := by
    refine ⟨by decide +kernel, by decide +kernel, rfl, rfl, rfl, fun v => ⟨?_, ?_⟩⟩
    · rintro ⟨x, hx, howner, rfl⟩
      exact hgiven x hx howner
    · rintro ⟨x, hx, howner, rfl⟩
      exact hbefore x hx howner
  have hroles : List.Forall₂ RoleTemplate.Restates press.roles pressAgain.roles := by
    refine .cons ⟨⟨rfl, rfl, rfl⟩, fun l => ?_⟩ (.cons ⟨⟨rfl, rfl, rfl⟩, fun l => Iff.rfl⟩ .nil)
    simp only [List.mem_cons, List.not_mem_nil, or_false]
    tauto
  have hpress : press.Restates pressAgain := ⟨rfl, hroles⟩
  have hroom : teams.Room pressAgain.roles.length (lineCount pressAgain.roles) := by
    constructor <;> decide
  have heditors : ⟨⟨2⟩, "editors", ⟨false, false, false⟩, some newYear⟩ ∈
      (((Backend.memory newYear).applyScenario "1" press).run teams).2.roles := by decide +kernel
  obtain ⟨report, t, hrun⟩ := exists_run_press
  rw [hrun] at heditors
  obtain ⟨hstores, hscenarios⟩ := exports_are_canonical
  have hwriters := hstores reachableInRange_teams.reachable hrestored.reachable htwins
  obtain ⟨report', t', hrun', hmade, hall⟩ := hscenarios .empty .empty (.applyScenario press)
    (.applyScenario pressAgain) reachableInRange_teams rfl rfl hpress hroles room_press hroom hrun
    newYear "2"
  have hlast := hall _ heditors
  exact ⟨hrestored.reachable, by decide +kernel, hwriters, hpress, report, t, report', t', hrun,
    hrun', hmade, hlast⟩

end Gatehouse
