import Gatehouse.Proofs.Template.Synced

/-!
# Moving users again

What roles become does not become anything else: it is a role of the scenario, and those stay.  So
as long as users hold nothing but what they held before and what that becomes, and whoever has lost
a role has got what there was to get, their roles still become the same.  Such a store is on its way
from the one before to the one after (`Store.Underway`), and moving the users again leads where
moving them once would have led (`Underway.afterAll_syncCalls`).

The store after is on that way too.  Moving the users again from there changes nothing, and a dry
run has told all of it before (`sync_settles`).
-/

set_option autoImplicit false

namespace Gatehouse

variable (now : Stamp) {s t w : Store} {sc : Scenario}

namespace Store

/-! ## On the way -/

/-- The store `w` is between the store `s` and what moving the users makes of it, the store `t`. -/
structure Underway (s t w : Store) : Prop where
  /-- Nothing is changed but who holds which role. -/
  rest : w = { s with links := w.links }
  /-- What users held before and will hold they hold. -/
  kept : ∀ l ∈ s.links, l ∈ t.links → l ∈ w.links
  /-- They hold nothing that they neither held before nor will hold. -/
  within : ∀ l ∈ w.links, l ∈ s.links ∨ l ∈ t.links
  /-- A user who has lost a role holds all that the user will hold. -/
  gained : ∀ user id, ⟨user, id⟩ ∈ s.links → ⟨user, id⟩ ∉ w.links →
    ∀ id', ⟨user, id'⟩ ∈ t.links → ⟨user, id'⟩ ∈ w.links

/-- The end of the way is on it. -/
theorem underway_end (rest : t = { s with links := t.links }) : s.Underway t t :=
  ⟨rest, fun _ _ hl => hl, fun _ hl => .inr hl, fun _ _ _ _ _ hl => hl⟩

/-! ## What roles become stays -/

/-- A role of the scenario becomes itself. -/
theorem target?_eq_name (hs : s.Coherent) (hthere : ∀ d ∈ sc.roles, ∃ r ∈ s.roles, r.name = d.name)
    {r : Role} (hr : r ∈ s.roles) (hown : ∃ d ∈ sc.roles, d.name = r.name) :
    (s.known sc.roles).target? r = some r.name := by
  rw [target?_known hs hthere hr, if_pos hown]

/-- Whatever a role becomes is a role that becomes itself. -/
theorem exists_target?_eq_self (hs : s.Coherent)
    (hthere : ∀ d ∈ sc.roles, ∃ r ∈ s.roles, r.name = d.name) {r : Role} (hr : r ∈ s.roles)
    {name : String} (h : (s.known sc.roles).target? r = some name) :
    ∃ new ∈ s.roles, new.name = name ∧ (s.known sc.roles).target? new = some name := by
  obtain ⟨p, hp, rfl⟩ := exists_role_of_target? hs hthere hr h
  obtain ⟨hd, hnew, hname⟩ := (mem_known hs).1 hp
  exact ⟨p.2, hnew, rfl, target?_eq_name hs hthere hnew ⟨p.1, hd, hname.symm⟩⟩

/-- On the way, the roles users hold still become what they became at first. -/
theorem Underway.mem_targets_iff (h : s.Underway (s.afterAll now (s.syncCalls sc)) w)
    (hs : s.Coherent) (hthere : ∀ d ∈ sc.roles, ∃ r ∈ s.roles, r.name = d.name) {user : UserId}
    {name : String} : name ∈ (w.held user).filterMap (w.known sc.roles).target? ↔
      name ∈ (s.held user).filterMap (s.known sc.roles).target? := by
  obtain ⟨links, hlinks, hafter⟩ := mem_links_syncCalls now hs hthere
  have hroles : w.roles = s.roles := by rw [h.rest]
  have hknown : w.known sc.roles = s.known sc.roles := by rw [h.rest]; rfl
  have hwill : ∀ r ∈ s.roles, ⟨user, r.id⟩ ∈ (s.afterAll now (s.syncCalls sc)).links ↔
      r.name ∈ (s.held user).filterMap (s.known sc.roles).target? := fun r hr => by
    rw [hlinks]
    exact hafter user r hr
  rw [hknown]
  constructor
  · intro hname
    obtain ⟨r, hr, htarget⟩ := List.mem_filterMap.1 hname
    obtain ⟨hmem, hl⟩ := mem_held.1 hr
    rw [hroles] at hmem
    rcases h.within _ hl with hl | hl
    · exact List.mem_filterMap.2 ⟨r, mem_held.2 ⟨hmem, hl⟩, htarget⟩
    · -- The role was gained, so it is one of the scenario and becomes itself.
      have hr' := (hwill r hmem).1 hl
      obtain ⟨old, hold, hbecomes⟩ := List.mem_filterMap.1 hr'
      obtain ⟨new, hnew, hname', hself⟩ :=
        exists_target?_eq_self hs hthere (mem_held.1 hold).1 hbecomes
      rw [hs.names new hnew r hmem hname', htarget] at hself
      rwa [Option.some.inj hself]
  · intro hname
    obtain ⟨r, hr, htarget⟩ := List.mem_filterMap.1 hname
    obtain ⟨hmem, hl⟩ := mem_held.1 hr
    by_cases hstill : ⟨user, r.id⟩ ∈ w.links
    · exact List.mem_filterMap.2 ⟨r, mem_held.2 ⟨hroles ▸ hmem, hstill⟩, htarget⟩
    · -- The role was lost, so what it becomes is held by now.
      obtain ⟨new, hnew, rfl, hself⟩ := exists_target?_eq_self hs hthere hmem htarget
      have hheld := h.gained user r.id hl hstill new.id ((hwill new hnew).2 hname)
      exact List.mem_filterMap.2 ⟨new, mem_held.2 ⟨hroles ▸ hnew, hheld⟩, hself⟩

/-! ## Going on from there -/

theorem Underway.there (h : s.Underway t w)
    (hthere : ∀ d ∈ sc.roles, ∃ r ∈ s.roles, r.name = d.name) :
    ∀ d ∈ sc.roles, ∃ r ∈ w.roles, r.name = d.name := by
  rw [h.rest]
  exact hthere

/-- On the way, moving the users leads to the end of it. -/
theorem Underway.afterAll_syncCalls (now' : Stamp)
    (h : s.Underway (s.afterAll now (s.syncCalls sc)) w) (hs : s.Reachable) (hw : w.Reachable)
    (hthere : ∀ d ∈ sc.roles, ∃ r ∈ s.roles, r.name = d.name) :
    w.afterAll now' (w.syncCalls sc) = s.afterAll now (s.syncCalls sc) := by
  obtain ⟨links, hlinks, hafter⟩ := mem_links_syncCalls now hs.coherent hthere
  obtain ⟨links', hlinks', hafter'⟩ :=
    mem_links_syncCalls now' hw.coherent (h.there hthere)
  have hcoh := (reachable_syncCalls now hs sc).coherent
  have hcoh' := (reachable_syncCalls now' hw sc).coherent
  have hroles : w.roles = s.roles := by rw [h.rest]
  have hsame : ∀ user, ∀ r ∈ s.roles, ⟨user, r.id⟩ ∈ links' ↔ ⟨user, r.id⟩ ∈ links :=
    fun user r hr => by
      rw [hafter user r hr, hafter' user r (hroles ▸ hr), h.mem_targets_iff now hs.coherent hthere]
  -- Both stores link users to roles of `s` only.
  have heq : links' = links := Table.ext_mem fun ⟨user, id⟩ => by
    constructor
    · intro hl
      obtain ⟨r, hr, rfl⟩ := hcoh'.linked ⟨user, id⟩ (by rw [hlinks']; exact hl)
      rw [hlinks', h.rest] at hr
      exact (hsame user r hr).1 hl
    · intro hl
      obtain ⟨r, hr, rfl⟩ := hcoh.linked ⟨user, id⟩ (by rw [hlinks]; exact hl)
      rw [hlinks] at hr
      exact (hsame user r hr).2 hl
  rw [hlinks, hlinks', heq, h.rest]

end Store

/-! ## At the end of the way -/

namespace Store

/-- After the users have been moved, nothing is left to change for anybody. -/
theorem syncChanges_eq_nil (hs : s.Reachable)
    (hthere : ∀ d ∈ sc.roles, ∃ r ∈ s.roles, r.name = d.name) :
    (s.afterAll now (s.syncCalls sc)).syncChanges sc = [] := by
  obtain ⟨links, hlinks, -⟩ := mem_links_syncCalls now hs.coherent hthere
  have hend := underway_end (t := s.afterAll now (s.syncCalls sc)) (by rw [hlinks])
  refine List.eq_nil_iff_forall_not_mem.2 fun c hc => ?_
  obtain ⟨hchange, hempty⟩ := mem_syncChanges.1 hc
  rw [hchange, ← Bool.not_eq_true, KnownRoles.isEmpty_change_iff] at hempty
  refine hempty fun name => ?_
  rw [hend.mem_targets_iff now hs.coherent hthere,
    ← holds_syncCalls_iff now hs.coherent hthere, holds_iff]

end Store

/-- **Moving users settles them, and a dry run tells how.**  A dry run changes nothing and reports
the changes that the users' move makes; after that, any further run, dry or not, finds nothing to
change and changes nothing. -/
theorem sync_settles (hs : s.Reachable) (hnames : (sc.roles.map (·.name)).Nodup)
    (hthere : ∀ d ∈ sc.roles, ∃ r ∈ s.roles, r.name = d.name) :
    ∃ changes t,
      ((Backend.memory now).syncScenario sc true).run s = (.ok ⟨sc.name, true, changes⟩, s) ∧
      ((Backend.memory now).syncScenario sc false).run s = (.ok ⟨sc.name, false, changes⟩, t) ∧
      s.Synced t sc ⟨sc.name, false, changes⟩ ∧
      ∀ now' dryRun, ((Backend.memory now').syncScenario sc dryRun).run t =
        (.ok ⟨sc.name, dryRun, []⟩, t) := by
  obtain ⟨links, hlinks, -⟩ := Store.mem_links_syncCalls now hs.coherent hthere
  have hend := Store.underway_end (t := s.afterAll now (s.syncCalls sc)) (by rw [hlinks])
  refine ⟨s.syncChanges sc, s.afterAll now (s.syncCalls sc),
    run_syncScenario_memory now hs.coherent hthere true,
    run_syncScenario_memory now hs.coherent hthere false,
    Store.synced_syncCalls now hs hthere hnames, fun now' dryRun => ?_⟩
  have hafter : (s.afterAll now (s.syncCalls sc)).Reachable := Store.reachable_syncCalls now hs sc
  rw [run_syncScenario_memory now' hafter.coherent (hend.there hthere),
    Store.syncChanges_eq_nil now hs hthere, hend.afterAll_syncCalls now now' hs hafter hthere,
    ite_self]

/-- Every role of the tavern is there. -/
theorem tavern_there_crew : ∀ d ∈ tavern.roles, ∃ r ∈ crew.roles.rows, r.name = d.name := by
  decide +kernel

/-- The changes for the crew are told, made, and not made again. -/
theorem sync_settles_tavern :
    ∃ t, ((Backend.memory newYear).syncScenario tavern true).run crew =
        (.ok ⟨"tavern", true, [⟨⟨1⟩, [], ["moderator"]⟩, ⟨⟨2⟩, [], ["root"]⟩,
          ⟨⟨3⟩, ["guest", "user"], ["moderator", "visitor"]⟩]⟩, crew) ∧
      ((Backend.memory newYear).syncScenario tavern false).run crew =
        (.ok ⟨"tavern", false, [⟨⟨1⟩, [], ["moderator"]⟩, ⟨⟨2⟩, [], ["root"]⟩,
          ⟨⟨3⟩, ["guest", "user"], ["moderator", "visitor"]⟩]⟩, t) ∧
      ∀ now' dryRun, ((Backend.memory now').syncScenario tavern dryRun).run t =
        (.ok ⟨"tavern", dryRun, []⟩, t) := by
  have hnames : (tavern.roles.map (·.name)).Nodup := by decide
  obtain ⟨changes, t, hdry, hreal, -, hagain⟩ :=
    sync_settles newYear reachable_crew hnames tavern_there_crew
  have hchanges : (((Backend.memory newYear).syncScenario tavern true).run crew).1.toOption.map
      (·.changes) = some [⟨⟨1⟩, [], ["moderator"]⟩, ⟨⟨2⟩, [], ["root"]⟩,
        ⟨⟨3⟩, ["guest", "user"], ["moderator", "visitor"]⟩] := by decide +kernel
  rw [hdry] at hchanges
  cases Option.some.inj hchanges
  exact ⟨t, hdry, hreal, hagain⟩

end Gatehouse
