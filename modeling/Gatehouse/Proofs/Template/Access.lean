import Gatehouse.Proofs.Check
import Gatehouse.Proofs.Template.Difference
import Gatehouse.Proofs.Template.Success

/-!
# What applying means for those who ask

Applying replaces all grants of a role by those of the lines, with new identities, without remarks
and without what was there twice.  None of that can be seen in a decision: a check depends on who
owns which standing and on nothing else (`Grant.core_eq_iff`).  A difference looks at exactly that
for the roles of the scenario, so where it is empty, applying changes no decision, for whatever
mixture of roles and user (`check_eq_of_diff_isEmpty`).

Afterwards the lines are all there is to know about the roles of a scenario.  What counts for
somebody who holds some of them and nothing else is what the lines offer
(`Store.Applied.counting_iff`).  So they get what a line of theirs speaks about, are refused
everything else, and are never refused by a denial (`check_after_apply`).
-/

set_option autoImplicit false

namespace Gatehouse

/-! ## What decides -/

/-- The core of a grant is its owner and its standing. -/
theorem Grant.core_eq_iff {g g' : Grant} :
    g.core = g'.core ↔ g.owner = g'.owner ∧ g.standing = g'.standing := by
  simp only [core, Terms.standing, Terms.signature, Prod.mk.injEq, Terms.mk.injEq,
    Signature.mk.injEq]
  tauto

/-- What the roles and users of the first store own is owned in the second one as well, if roles
keep their identities and names, and names what they stand for. -/
theorem Store.exists_core_of_stands {s t : Store} (hs : s.Coherent) (ht : t.Coherent)
    (hroles : ∀ r ∈ s.roles, ∃ r' ∈ t.roles, r'.id = r.id ∧ r'.name = r.name)
    (hstands : ∀ name x, s.Stands name x → t.Stands name x)
    (husers : ∀ g id, g.owner = .user id → g ∈ s.grants → g ∈ t.grants) {g : Grant}
    (hg : g ∈ s.grants) : ∃ g' ∈ t.grants, g'.core = g.core := by
  cases howner : g.owner with
  | user id => exact ⟨g, husers g id howner hg, rfl⟩
  | role id =>
    obtain ⟨r, hr, rfl⟩ := hs.owned g hg id howner
    obtain ⟨g', ⟨hg', r', hr', hname', howner'⟩, hst⟩ :=
      hstands r.name g.standing ⟨g, ⟨hg, r, hr, rfl, howner⟩, rfl⟩
    obtain ⟨r'', hr'', hid, hname⟩ := hroles r hr
    obtain rfl := ht.names r' hr' r'' hr'' (hname'.trans hname.symm)
    refine ⟨g', hg', Grant.core_eq_iff.2 ⟨?_, hst⟩⟩
    rw [howner', hid, howner]

/-- Some of the templates have the name, or all have other ones. -/
theorem exists_named_or_other (ds : List RoleTemplate) (name : String) :
    (∃ d ∈ ds, d.name = name) ∨ ∀ d ∈ ds, d.name ≠ name := by
  by_cases h : ∃ d ∈ ds, d.name = name
  · exact .inl h
  · exact .inr fun d hd hname => h ⟨d, hd, hname⟩

namespace Store.Applied

variable {s t : Store} {ds : List RoleTemplate}

/-- A role keeps its identity and its name. -/
theorem exists_new (h : s.Applied t ds) {old : Role} (hold : old ∈ s.roles) :
    ∃ r ∈ t.roles, r.id = old.id ∧ r.name = old.name := by
  obtain ⟨d, hd, hname⟩ | hother := exists_named_or_other ds old.name
  · obtain ⟨r, hr⟩ := h.made d hd
    obtain ⟨hid, hname', -⟩ := hr.kept old hold hname.symm
    exact ⟨r, hr.mem, hid, hname'⟩
  · exact ⟨old, (h.roles old hother).2 hold, rfl, rfl⟩

/-- Where the roles of all templates are there, none is new. -/
theorem exists_old (h : s.Applied t ds) (hthere : ∀ d ∈ ds, ∃ r ∈ s.roles, r.name = d.name)
    {r : Role} (hr : r ∈ t.roles) : ∃ old ∈ s.roles, old.id = r.id ∧ old.name = r.name := by
  obtain ⟨d, hd, hname⟩ | hother := exists_named_or_other ds r.name
  · obtain ⟨new, hnew⟩ := h.made d hd
    obtain rfl := hnew.only r hr hname.symm
    obtain ⟨old, hold, hname'⟩ := hthere d hd
    obtain ⟨hid, hname'', -⟩ := hnew.kept old hold hname'
    exact ⟨old, hold, hid.symm, hname''.symm⟩
  · exact ⟨r, (h.roles r hother).1 hr, rfl, rfl⟩

/-- A name that no template has stands for what it stood for. -/
theorem stands_iff_of_other (h : s.Applied t ds) {name : String} (hother : ∀ d ∈ ds, d.name ≠ name)
    {x : Signature × Rule × Bool} : t.Stands name x ↔ s.Stands name x := by
  constructor
  · rintro ⟨g, ⟨hg, r, hr, rfl, howner⟩, hst⟩
    have hold : r ∈ s.roles := (h.roles r hother).1 hr
    exact ⟨g, ⟨(h.grants r hold hother g howner).1 hg, r, hold, rfl, howner⟩, hst⟩
  · rintro ⟨g, ⟨hg, r, hr, rfl, howner⟩, hst⟩
    exact ⟨g, ⟨(h.grants r hr hother g howner).2 hg, r, (h.roles r hother).2 hr, rfl, howner⟩, hst⟩

/-- Applying templates without differences leaves who owns what. -/
theorem sameCores (h : s.Applied t ds) (hs : s.Coherent) (ht : t.Coherent)
    (hempty : ∀ d ∈ ds, (s.difference d).isEmpty = true) : s.SameCores t := by
  have hthere : ∀ d ∈ ds, ∃ r ∈ s.roles, r.name = d.name := fun d hd => by
    obtain ⟨r, hr, hname, -⟩ := (Store.difference_isEmpty_iff hs).1 (hempty d hd)
    exact ⟨r, hr, hname⟩
  have hstands : ∀ name x, t.Stands name x ↔ s.Stands name x := fun name x => by
    obtain ⟨d, hd, rfl⟩ | hother := exists_named_or_other ds name
    · obtain ⟨-, -, -, -, -, hold⟩ := (Store.difference_isEmpty_iff hs).1 (hempty d hd)
      rw [h.stands_iff ht hd, hold]
    · exact h.stands_iff_of_other hother
  intro c
  constructor
  · rintro ⟨g, hg, rfl⟩
    exact exists_core_of_stands hs ht (fun _ => h.exists_new)
      (fun name x => (hstands name x).2) (fun g id hid => (h.users g id hid).2) hg
  · rintro ⟨g, hg, rfl⟩
    exact exists_core_of_stands ht hs (fun _ => h.exists_old hthere)
      (fun name x => (hstands name x).1) (fun g id hid => (h.users g id hid).1) hg

end Store.Applied

/-! ## Applying what is applied already -/

/-- **Applying a scenario without differences changes no decision.**  If all differences between a
scenario that is in order and the store are empty, the scenario can be applied, and whoever asks
whatever gets the same decision before and after. -/
theorem check_eq_of_diff_isEmpty {s : Store} (hs : s.ReachableInRange) {sc : Scenario}
    (hcheck : sc.check = .ok ()) (hroom : s.Room sc.roles.length (lineCount sc.roles))
    {earlier : Stamp} {diffs : List RoleDifference}
    (hdiff : ((Backend.memory earlier).diffScenario sc).run s = (.ok diffs, s))
    (hempty : ∀ diff ∈ diffs, diff.isEmpty = true) (now later : Stamp) (run : String) :
    ∃ report t, ((Backend.memory now).applyScenario run sc).run s = (.ok report, t) ∧
      ∀ subject q, ∃ decision,
        ((Backend.memory later).check subject q).run s = (.ok decision, s) ∧
          ((Backend.memory later).check subject q).run t = (.ok decision, t) := by
  rw [run_diffScenario_memory] at hdiff
  cases hdiff
  have hnone : ∀ d ∈ sc.roles, (s.difference d).isEmpty = true := fun d hd =>
    hempty _ (List.mem_map_of_mem hd)
  have htakes : ∀ d ∈ sc.roles, s.Takes d := fun d hd => by
    obtain ⟨r, hr, hname, -⟩ := (Store.difference_isEmpty_iff hs.coherent).1 (hnone d hd)
    exact .inl ⟨r, hr, hname⟩
  obtain ⟨report, t, h⟩ := exists_run_applyScenario now hs hcheck hroom htakes run
  obtain ⟨ht, happlied⟩ := applied_of_applyScenario hs hroom h
  refine ⟨report, t, h, fun subject q => ⟨s.decision subject q, run_check_memory _ _ _ _, ?_⟩⟩
  rw [run_check_memory, (happlied.sameCores hs.coherent ht.coherent hnone).decision_eq]

/-- The teams, after the guests were given once more what they have, with a remark. -/
def remarkedTeams : Store :=
  teams.afterAll newYear
    [.createGrant (((Draft.new (.role ⟨3⟩) "news" "see").onInstance "draft" 4).withItemRule "own")]

/-- A scenario that gives the guests what they have. -/
def visit : Scenario where
  name := "visit"
  roles :=
    [{ name := "guests",
       lines := [{ area := "news", item := some "draft", action := "see", itemId := some 4 }] }]

/-- Applying it leaves the guests one grant of two and without the remark, and changes no decision
for anybody. -/
theorem check_eq_of_diff_isEmpty_visit :
    ∃ report t, ((Backend.memory newYear).applyScenario "1" visit).run remarkedTeams =
        (.ok report, t) ∧
      ∀ subject q, ∃ decision,
        ((Backend.memory newYear).check subject q).run remarkedTeams =
            (.ok decision, remarkedTeams) ∧
          ((Backend.memory newYear).check subject q).run t = (.ok decision, t) := by
  have hmade := ((Draft.Made.new (.role ⟨3⟩) "news" "see").onInstance "draft" 4).withItemRule "own"
  have hs : remarkedTeams.ReachableInRange :=
    reachableInRange_teams.afterAll ⟨hmade, by decide, trivial⟩
  have hproblems : visit.problems = [] := by decide +kernel
  have hcheck : visit.check = .ok () := by rw [Scenario.check, hproblems]
  have hroom : remarkedTeams.Room visit.roles.length (lineCount visit.roles) := by
    constructor <;> decide
  have hdiffs : visit.roles.map remarkedTeams.difference = [⟨"guests", false, [], [], [], []⟩] := by
    decide +kernel
  refine check_eq_of_diff_isEmpty hs hcheck hroom
    (run_diffScenario_memory newYear remarkedTeams visit) ?_ newYear newYear "1"
  rw [hdiffs]
  decide

/-! ## What is applied -/

/-- The line speaks about the request: the same section, the same action, and the item and the
instance it is narrowed to, if any, are those of the request. -/
structure GrantLine.Covers (l : GrantLine) (q : Request) : Prop where
  /-- It is on the section asked about. -/
  area : l.area = q.area
  /-- It is on the action asked about. -/
  action : l.action = q.action
  /-- It is on any item or on the one asked about. -/
  item : l.item? = none ∨ l.item? = q.item
  /-- It is on any instance or on the one asked about. -/
  itemId : l.instance? = none ∨ l.instance? = q.itemId

/-- How far the line is narrowed. -/
def GrantLine.tier (l : GrantLine) : Tier := Tier.of l.item? l.instance?

/-- The line is one of the scenario, for a role that is stored under one of the identities, and
speaks about the request. -/
def Scenario.Offers (sc : Scenario) (t : Store) (ids : List RoleId) (q : Request) (l : GrantLine) :
    Prop :=
  ∃ d ∈ sc.roles, ∃ r ∈ t.roles, r.name = d.name ∧ r.id ∈ ids ∧ l ∈ d.lines ∧ l.Covers q

/-- A grant of a role that says what a line says counts exactly when the role asks and the line
speaks about the request. -/
theorem GrantLine.counts_iff {l : GrantLine} {g : Grant} (h : g.toTerms = l.terms) {id : RoleId}
    (howner : g.owner = .role id) {ids : List RoleId} {q : Request} :
    g.Counts ⟨ids, none⟩ q ↔ id ∈ ids ∧ l.Covers q := by
  have harea : g.area = l.area := congrArg (·.area) h
  have haction : g.action = l.action := congrArg (·.action) h
  have hitem : g.item = l.item? := congrArg (·.item) h
  have hid : g.itemId = l.instance? := congrArg (·.itemId) h
  have hactive : g.active = true := congrArg (·.active) h
  constructor
  · intro hg
    refine ⟨?_, harea ▸ hg.area, haction ▸ hg.action, hitem ▸ hg.item, hid ▸ hg.itemId⟩
    obtain ⟨id', hmem, howner'⟩ | ⟨_, huser, -⟩ := hg.owner
    · rw [howner, Owner.role.injEq] at howner'
      exact howner' ▸ hmem
    · cases huser
  · rintro ⟨hmem, hl⟩
    exact ⟨hactive, harea.trans hl.area, haction.trans hl.action, .inl ⟨id, hmem, howner⟩,
      hitem ▸ hl.item, hid ▸ hl.itemId⟩

/-- Once a scenario has been applied, what counts for some of its roles is what their lines offer,
whatever grants they had before. -/
theorem Store.Applied.counting_iff {s t : Store} {sc : Scenario} (h : s.Applied t sc.roles)
    (ht : t.Coherent) {ids : List RoleId}
    (hids : ∀ id ∈ ids, ∃ d ∈ sc.roles, ∃ r ∈ t.roles, r.name = d.name ∧ r.id = id) {q : Request}
    {x : Terms} :
    t.counting ⟨ids, none⟩ q x ↔ ∃ l, sc.Offers t ids q l ∧ l.terms = x := by
  constructor
  · rintro ⟨g, hg, hcounts, rfl⟩
    obtain ⟨id, hmem, howner⟩ | ⟨_, huser, -⟩ := hcounts.owner
    · obtain ⟨d, hd, r, hr, hname, rfl⟩ := hids id hmem
      obtain ⟨new, hnew⟩ := h.made d hd
      obtain ⟨l, hl, hlg⟩ := (hnew.exists_grantOf_iff ht (P := fun y => y = g.toTerms)).1
        ⟨g, ⟨hg, r, hr, hname, howner⟩, rfl⟩
      have hcovers := ((GrantLine.counts_iff hlg.symm howner).1 hcounts).2
      exact ⟨l, ⟨d, hd, r, hr, hname, hmem, hl, hcovers⟩, hlg⟩
    · cases huser
  · rintro ⟨l, ⟨d, hd, r, hr, hname, hmem, hl, hcovers⟩, rfl⟩
    obtain ⟨new, hnew⟩ := h.made d hd
    obtain ⟨g, ⟨hg, r', hr', hname', howner⟩, hgl⟩ :=
      (hnew.exists_grantOf_iff ht (P := fun y => y = l.terms)).2 ⟨l, hl, rfl⟩
    obtain rfl := ht.names r' hr' r hr (hname'.trans hname.symm)
    exact ⟨g, hg, (GrantLine.counts_iff hgl howner).2 ⟨hmem, hcovers⟩, hgl⟩

/-- **A scenario that has been applied means what it says.**  Whoever holds some of its roles and
nothing else is granted a request exactly if a line of these roles speaks about it, and then because
of the line that is narrowed most; otherwise the request is refused because nothing matches, and
never because of a denial, whatever grants the roles had before. -/
theorem check_after_apply {now : Stamp} {s : Store} (hs : s.ReachableInRange) {run : String}
    {sc : Scenario} (hroom : s.Room sc.roles.length (lineCount sc.roles)) {report : ApplyReport}
    {t : Store} (h : ((Backend.memory now).applyScenario run sc).run s = (.ok report, t))
    {ids : List RoleId}
    (hids : ∀ id ∈ ids, ∃ d ∈ sc.roles, ∃ r ∈ t.roles, r.name = d.name ∧ r.id = id)
    (q : Request) (later : Stamp) :
    ∃ decision, ((Backend.memory later).check ⟨ids, none⟩ q).run t = (.ok decision, t) ∧
      (decision.allowed = true ↔ ∃ l, sc.Offers t ids q l) ∧
      (decision.allowed = true → ∃ tier, decision.reason = .allowed tier ∧
        (∃ l, sc.Offers t ids q l ∧ l.tier = tier) ∧
          ∀ l, sc.Offers t ids q l → l.tier.rank ≤ tier.rank) ∧
      (decision.allowed = false → decision.reason = .noMatch) := by
  obtain ⟨ht, happlied⟩ := applied_of_applyScenario hs hroom h
  have hfollows : Decision.Follows (fun x => ∃ l, sc.Offers t ids q l ∧ l.terms = x)
      (t.decision ⟨ids, none⟩ q) :=
    (t.follows_decision ⟨ids, none⟩ q).congr fun _ => happlied.counting_iff ht.coherent hids
  obtain ⟨hallowed, htop, hrefused⟩ := hfollows.of_allow fun _ ⟨_, _, hx⟩ => hx ▸ rfl
  refine ⟨_, run_check_memory _ _ _ _, hallowed.trans ?_, fun hd => ?_, hrefused⟩
  · constructor
    · rintro ⟨_, l, hl, -⟩
      exact ⟨l, hl⟩
    · rintro ⟨l, hl⟩
      exact ⟨l.terms, l, hl, rfl⟩
  · obtain ⟨tier, hreason, ⟨_, ⟨l, hl, rfl⟩, htier⟩, hle⟩ := htop hd
    exact ⟨tier, hreason, ⟨l, hl, htier⟩, fun l' hl' => hle l'.terms ⟨l', hl', rfl⟩⟩

/-- The teams, after the scenario for the press has been applied to them. -/
def pressed : Store := (((Backend.memory newYear).applyScenario "1" press).run teams).2

/-- Somebody wants to see the drafts of the news. -/
def draftSeen : Request := ⟨"news", some "draft", none, "see"⟩

/-- The writers were denied to see drafts.  The scenario for the press, which lets them see all the
news, takes this back. -/
theorem check_after_apply_press :
    ((Backend.memory newYear).check ⟨[⟨1⟩, ⟨4⟩], none⟩ draftSeen).run teams =
        (.ok ⟨false, .denied .item⟩, teams) ∧
      ∃ decision, ((Backend.memory newYear).check ⟨[⟨1⟩, ⟨4⟩], none⟩ draftSeen).run pressed =
        (.ok decision, pressed) ∧ decision.allowed = true := by
  refine ⟨by rw [run_check_memory]; decide +kernel, ?_⟩
  obtain ⟨report, t, h⟩ := exists_run_press
  obtain rfl : pressed = t := by rw [pressed, h]
  have hids : ∀ id ∈ [(⟨1⟩ : RoleId), ⟨4⟩],
      ∃ d ∈ press.roles, ∃ r ∈ pressed.roles, r.name = d.name ∧ r.id = id := by decide +kernel
  obtain ⟨decision, hrun, hallowed, -⟩ :=
    check_after_apply reachableInRange_teams room_press h hids draftSeen newYear
  have hwriters : ∃ r ∈ pressed.roles, r.name = "writers" ∧ r.id = ⟨1⟩ := by decide +kernel
  obtain ⟨r, hr, hname, hid⟩ := hwriters
  have hline : (⟨"news", none, "see", none⟩ : GrantLine).Covers draftSeen :=
    ⟨rfl, rfl, .inl rfl, .inl rfl⟩
  have hmem : r.id ∈ [(⟨1⟩ : RoleId), ⟨4⟩] := hid ▸ List.mem_cons_self
  exact ⟨decision, hrun, hallowed.2
    ⟨_, _, List.mem_cons_self, r, hr, hname, hmem, List.mem_cons_self, hline⟩⟩

end Gatehouse
