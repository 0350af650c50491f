import Gatehouse.Proofs.Template.Applied
import Gatehouse.Proofs.Template.Sync

/-!
# What moving users leaves behind

After the users have been moved to a scenario, the roles each of them holds are exactly what the
roles held before become, the report tells the difference user by user, and nothing else has changed
(`Store.Synced`).

The class of a role of the scenario is what its template says and that of any other role what the
store says.  Between applying a scenario and moving users to it the store may have come to say
something else about a role of the scenario, and then users can get to administer the site who did
not do so before (`sync_can_give_administration`).  This is the only way for that to happen
(`sync_gives_administration_only_by_drift`).
-/

set_option autoImplicit false

namespace Gatehouse

open Std

variable (now : Stamp) {s : Store}

/-! ## The postcondition -/

/-- The store `t` is what moving the users of the store `s` to a scenario makes of it, and the
report tells so. -/
structure Store.Synced (s t : Store) (sc : Scenario) (report : SyncReport) : Prop where
  /-- Nothing is changed but who holds which role. -/
  rest : t = { s with links := t.links }
  /-- A user holds exactly the roles that those held before become. -/
  held : ∀ user id, ⟨user, id⟩ ∈ t.links ↔ ∃ new ∈ s.roles, new.id = id ∧
    ∃ old ∈ s.roles, ⟨user, old.id⟩ ∈ s.links ∧ sc.Becomes old new.name
  /-- The report names the scenario. -/
  scenario : report.scenario = sc.name
  /-- It is not one of a dry run. -/
  real : report.dryRun = false
  /-- Its users come in ascending order, -/
  users : Ascending compare (report.changes.map (·.user))
  /-- and they are those who do not hold the same roles as before. -/
  changed : ∀ user, user ∈ report.changes.map (·.user) ↔
    ∃ id, ¬(⟨user, id⟩ ∈ t.links ↔ ⟨user, id⟩ ∈ s.links)
  /-- For each of them it has the names of the roles gained, -/
  add : ∀ c ∈ report.changes, Ascending compare c.add ∧
    ∀ name, name ∈ c.add ↔ t.Holds c.user name ∧ ¬s.Holds c.user name
  /-- and of those lost, both in order. -/
  remove : ∀ c ∈ report.changes, Ascending compare c.remove ∧
    ∀ name, name ∈ c.remove ↔ s.Holds c.user name ∧ ¬t.Holds c.user name

namespace Store

variable {sc : Scenario}

/-- Something changes for the users who do not hold the same roles as before. -/
theorem mem_users_syncChanges_iff (hs : s.Coherent)
    (hthere : ∀ d ∈ sc.roles, ∃ r ∈ s.roles, r.name = d.name) {user : UserId} :
    user ∈ (s.syncChanges sc).map (·.user) ↔
      ∃ name, ¬((s.afterAll now (s.syncCalls sc)).Holds user name ↔ s.Holds user name) := by
  have hmem : user ∈ (s.syncChanges sc).map (·.user) ↔
      ((s.known sc.roles).change user (s.held user)).isEmpty = false := by
    rw [List.mem_map]
    constructor
    · rintro ⟨c, hc, rfl⟩
      obtain ⟨hchange, hempty⟩ := mem_syncChanges.1 hc
      rwa [← hchange]
    · exact fun hempty => ⟨_, mem_syncChanges.2 ⟨rfl, hempty⟩, rfl⟩
  rw [hmem, ← Bool.not_eq_true, KnownRoles.isEmpty_change_iff, not_forall]
  exact exists_congr fun name => by rw [holds_syncCalls_iff now hs hthere, holds_iff]

/-- Where the roles are the same, users hold the same roles exactly if they hold them by name. -/
theorem holds_congr_iff {t : Store} (hs : s.Coherent) (ht : t.Coherent) (hroles : t.roles = s.roles)
    {user : UserId} : (∀ name, t.Holds user name ↔ s.Holds user name) ↔
      ∀ id, ⟨user, id⟩ ∈ t.links ↔ ⟨user, id⟩ ∈ s.links := by
  have hlinks : ∀ r ∈ s.roles, (t.Holds user r.name ↔ s.Holds user r.name) ↔
      (⟨user, r.id⟩ ∈ t.links ↔ ⟨user, r.id⟩ ∈ s.links) := fun r hr => by
    rw [holds_name_iff hs hr, holds_name_iff ht (hroles ▸ hr)]
  constructor
  · intro h id
    constructor
    · intro hl
      obtain ⟨r, hr, rfl⟩ := ht.linked _ hl
      exact ((hlinks r (hroles ▸ hr)).1 (h r.name)).1 hl
    · intro hl
      obtain ⟨r, hr, rfl⟩ := hs.linked _ hl
      exact ((hlinks r hr).1 (h r.name)).2 hl
  · intro h name
    simp only [Holds, hroles, h]

theorem synced_syncCalls (hs : s.Reachable)
    (hthere : ∀ d ∈ sc.roles, ∃ r ∈ s.roles, r.name = d.name)
    (hnames : (sc.roles.map (·.name)).Nodup) :
    s.Synced (s.afterAll now (s.syncCalls sc)) sc ⟨sc.name, false, s.syncChanges sc⟩ := by
  have hcoh : s.Coherent := hs.coherent
  have hcoh' := (reachable_syncCalls now hs sc).coherent
  obtain ⟨links, hlinks, -⟩ := mem_links_syncCalls now hcoh hthere
  have hroles : (s.afterAll now (s.syncCalls sc)).roles = s.roles := by rw [hlinks]
  have hbecomes : ∀ user name, (s.afterAll now (s.syncCalls sc)).Holds user name ↔
      ∃ old ∈ s.roles, ⟨user, old.id⟩ ∈ s.links ∧ sc.Becomes old name := fun user name => by
    rw [holds_syncCalls_iff now hcoh hthere, List.mem_filterMap]
    refine exists_congr fun old => ?_
    rw [mem_held, and_assoc]
    exact and_congr_right fun hold => and_congr_right' (target?_eq_some_iff hcoh hthere hnames hold)
  refine ⟨by rw [hlinks], fun user id => ?_, rfl, rfl, ascending_syncChanges, fun user => ?_,
    fun c hc => ?_, fun c hc => ?_⟩
  · constructor
    · intro hl
      obtain ⟨new, hnew, rfl⟩ := hcoh'.linked _ hl
      exact ⟨new, hroles ▸ hnew, rfl, (hbecomes user new.name).1 ⟨new, hnew, rfl, hl⟩⟩
    · rintro ⟨new, hnew, rfl, hold⟩
      exact (holds_name_iff hcoh' (hroles ▸ hnew)).1 ((hbecomes user new.name).2 hold)
  · rw [mem_users_syncChanges_iff now hcoh hthere, ← not_forall, ← not_forall,
      holds_congr_iff hcoh hcoh' hroles]
  · obtain ⟨hchange, -⟩ := mem_syncChanges.1 hc
    rw [hchange]
    refine ⟨KnownRoles.ascending_add_change, fun name => ?_⟩
    rw [KnownRoles.mem_add_change, KnownRoles.user_change, holds_syncCalls_iff now hcoh hthere,
      holds_iff]
  · obtain ⟨hchange, -⟩ := mem_syncChanges.1 hc
    rw [hchange]
    refine ⟨KnownRoles.ascending_remove_change, fun name => ?_⟩
    rw [KnownRoles.mem_remove_change, KnownRoles.user_change, holds_syncCalls_iff now hcoh hthere,
      holds_iff]

end Store

/-- **What moving the users to a scenario does.**  If the roles of the scenario have distinct names
and are all there, users can be moved, and then they hold what their roles become.  If one is not
there, this is told and nothing changes. -/
theorem sync_moves_users (hs : s.Reachable) (sc : Scenario) :
    ((sc.roles.map (·.name)).Nodup → (∀ d ∈ sc.roles, ∃ r ∈ s.roles, r.name = d.name) →
        ∃ report t, ((Backend.memory now).syncScenario sc false).run s = (.ok report, t) ∧
          s.Synced t sc report) ∧
      ((∃ d ∈ sc.roles, ∀ r ∈ s.roles, r.name ≠ d.name) →
        ∃ d ∈ sc.roles, (∀ r ∈ s.roles, r.name ≠ d.name) ∧
          ((Backend.memory now).syncScenario sc false).run s =
            (.error (.notFound (.roleNotApplied d.name sc.name)), s)) := by
  constructor
  · intro hnames hthere
    exact ⟨_, _, run_syncScenario_memory now hs.coherent hthere false,
      Store.synced_syncCalls now hs hthere hnames⟩
  · rintro ⟨e, he, hmissing⟩
    have hfind : (sc.roles.find? fun d => (s.roleNamed? d.name).isNone).isSome = true :=
      List.find?_isSome.2 ⟨e, he, by rw [Store.roleNamed?_eq_none_iff.2 hmissing]; rfl⟩
    obtain ⟨d, hd⟩ := Option.isSome_iff_exists.1 hfind
    have hnone : s.roleNamed? d.name = none := by simpa using List.find?_some hd
    exact ⟨d, List.mem_of_find?_eq_some hd, Store.roleNamed?_eq_none_iff.1 hnone,
      run_syncScenario_of_missing now hd false⟩

/-- A scenario for guests and users. -/
def tavern : Scenario where
  name := "tavern"
  roles := [{ name := "guest" }, { name := "user", canLogin := true }]

/-- Calls that make the two roles and three others, one of each class, and users who hold one or two
of them. -/
def crewCalls : List Operation :=
  [.createRole { name := "guest" }, .createRole { name := "user", flags := ⟨true, false, true⟩ },
    .createRole { name := "moderator", flags := ⟨true, false, false⟩ },
    .createRole { name := "root", flags := ⟨false, true, false⟩ },
    .createRole { name := "visitor" },
    .assign ⟨1⟩ ⟨2⟩, .assign ⟨1⟩ ⟨3⟩, .assign ⟨2⟩ ⟨4⟩, .assign ⟨3⟩ ⟨3⟩, .assign ⟨3⟩ ⟨5⟩,
    .assign ⟨4⟩ ⟨2⟩]

/-- The store after these calls. -/
def crew : Store := Store.empty.afterAll newYear crewCalls

theorem reachable_crew : crew.Reachable :=
  Store.Reachable.afterAll_of_proper newYear .empty (by simp [crewCalls, Operation.Proper])

/-- The crew is moved to the tavern: one user loses a role that becomes a role held anyway, one
loses a role without a counterpart, one exchanges two roles, and one keeps what there is.  They
cannot be moved to the press, whose roles are not there. -/
theorem sync_moves_users_tavern :
    (∃ report t, ((Backend.memory newYear).syncScenario tavern false).run crew = (.ok report, t) ∧
      crew.Synced t tavern report ∧ report.changes =
        [⟨⟨1⟩, [], ["moderator"]⟩, ⟨⟨2⟩, [], ["root"]⟩,
          ⟨⟨3⟩, ["guest", "user"], ["moderator", "visitor"]⟩]) ∧
      ∃ d ∈ press.roles, ((Backend.memory newYear).syncScenario press false).run crew =
        (.error (.notFound (.roleNotApplied d.name "press")), crew) := by
  constructor
  · have hthere : ∀ d ∈ tavern.roles, ∃ r ∈ crew.roles.rows, r.name = d.name := by decide +kernel
    obtain ⟨report, t, hrun, hsynced⟩ :=
      (sync_moves_users newYear reachable_crew tavern).1 (by decide) hthere
    have hchanges : (((Backend.memory newYear).syncScenario tavern false).run crew).1.toOption.map
        (·.changes) = some [⟨⟨1⟩, [], ["moderator"]⟩, ⟨⟨2⟩, [], ["root"]⟩,
          ⟨⟨3⟩, ["guest", "user"], ["moderator", "visitor"]⟩] := by decide +kernel
    rw [hrun] at hchanges
    exact ⟨report, t, hrun, hsynced, Option.some.inj hchanges⟩
  · have hmissing : ∃ d ∈ press.roles, ∀ r ∈ crew.roles.rows, r.name ≠ d.name := by decide +kernel
    obtain ⟨d, hd, -, hrun⟩ := (sync_moves_users newYear reachable_crew press).2 hmissing
    exact ⟨d, hd, hrun⟩

/-! ## Administration -/

/-- **Moving users lets nobody administer the site, but for roles that have changed.**  A user who
did not administer the site before holds afterwards only such roles that do so which are new to the
user and which the scenario describes as roles that do not. -/
theorem sync_gives_administration_only_by_drift (hs : s.Reachable) {sc : Scenario}
    (hthere : ∀ d ∈ sc.roles, ∃ r ∈ s.roles, r.name = d.name) {user : UserId}
    (hnone : ∀ r ∈ s.roles, ⟨user, r.id⟩ ∈ s.links → r.flags.isAdmin = false) :
    ∃ report t, ((Backend.memory now).syncScenario sc false).run s = (.ok report, t) ∧
      ∀ r ∈ t.roles, ⟨user, r.id⟩ ∈ t.links → r.flags.isAdmin = true →
        ⟨user, r.id⟩ ∉ s.links ∧ ∃ d ∈ sc.roles, d.name = r.name ∧ d.isAdmin = false := by
  have hcoh : s.Coherent := hs.coherent
  obtain ⟨links, hlinks, hmem⟩ := Store.mem_links_syncCalls now hcoh hthere
  have hrun := run_syncScenario_memory now hcoh hthere false
  rw [if_neg Bool.false_ne_true, hlinks] at hrun
  refine ⟨_, _, hrun, fun r hr hl hadmin => ?_⟩
  obtain ⟨old, hold, htarget⟩ := List.mem_filterMap.1 ((hmem user r hr).1 hl)
  obtain ⟨holdmem, holdlink⟩ := Store.mem_held.1 hold
  have holdflag : old.flags.isAdmin = false := hnone old holdmem holdlink
  refine ⟨fun hl' => ?_, ?_⟩
  · rw [hnone r hr hl'] at hadmin
    cases hadmin
  · generalize hname : r.name = name at htarget
    cases Store.becomes_of_target? hcoh hthere holdmem htarget with
    | kept own =>
      -- The role was held before, and nobody who held it administered the site.
      rw [← hcoh.names r hr old holdmem hname, hadmin] at holdflag
      cases holdflag
    | exchanged other only =>
      -- The template is of the class of a role that does not administer the site.
      refine ⟨_, only.mem, rfl, ?_⟩
      rw [← Bool.not_eq_true, ← RoleClass.of_eq_admin_iff]
      intro hclass
      rw [← Bool.not_eq_true] at holdflag
      exact holdflag (RoleClass.of_eq_admin_iff.1 (only.roleClass.symm.trans hclass))

/-- The tavern is applied to the empty store; then its users come to administer the site, and
somebody holds a role that may log in and no more. -/
def drifted : Store :=
  (((Backend.memory newYear).applyScenario "1" tavern).run .empty).2.afterAll newYear
    [.changeRole ⟨2⟩ { isAdmin := some true },
      .createRole { name := "helper", flags := ⟨true, false, false⟩ }, .assign ⟨7⟩ ⟨3⟩]

theorem reachable_drifted : drifted.Reachable := by
  obtain ⟨report, t, hrun⟩ := Action.exists_run_eq_ok
    (x := (Backend.memory newYear).applyScenario "1" tavern) (s := .empty) (by decide +kernel)
  have hroom : Store.empty.Room tavern.roles.length (lineCount tavern.roles) := by
    constructor <;> decide
  have ht : t.Reachable := (applied_of_applyScenario .empty hroom hrun).1.reachable
  rw [drifted, hrun]
  exact ht.afterAll_of_proper newYear (by simp [Operation.Proper])

/-- Every role of the tavern is there. -/
theorem tavern_there_drifted : ∀ d ∈ tavern.roles, ∃ r ∈ drifted.roles.rows, r.name = d.name := by
  decide +kernel

/-- The user does not administer the site. -/
theorem not_admin_drifted : ∀ r ∈ drifted.roles.rows,
    (⟨⟨7⟩, r.id⟩ : Link) ∈ drifted.links.rows → r.flags.isAdmin = false := by
  decide +kernel

/-- Moved to the tavern, the user administers the site by a role that is new to the user and of
which the tavern says that it does not. -/
theorem sync_gives_administration_only_by_drift_helper :
    ∃ report t, ((Backend.memory newYear).syncScenario tavern false).run drifted =
        (.ok report, t) ∧
      ∀ r ∈ t.roles, ⟨⟨7⟩, r.id⟩ ∈ t.links → r.flags.isAdmin = true →
        ⟨⟨7⟩, r.id⟩ ∉ drifted.links ∧ ∃ d ∈ tavern.roles, d.name = r.name ∧ d.isAdmin = false :=
  sync_gives_administration_only_by_drift newYear reachable_drifted tavern_there_drifted
    not_admin_drifted

/-- Moving users can let somebody administer the site who did not do so before. -/
theorem sync_can_give_administration :
    ¬∀ (s : Store) (sc : Scenario) (user : UserId), s.Reachable →
      (∀ d ∈ sc.roles, ∃ r ∈ s.roles, r.name = d.name) →
      (∀ r ∈ s.roles, ⟨user, r.id⟩ ∈ s.links → r.flags.isAdmin = false) →
      ∀ report t, ((Backend.memory newYear).syncScenario sc false).run s = (.ok report, t) →
        ∀ r ∈ t.roles, ⟨user, r.id⟩ ∈ t.links → r.flags.isAdmin = false := by
  intro h
  obtain ⟨report, t, hrun⟩ := Action.exists_run_eq_ok
    (x := (Backend.memory newYear).syncScenario tavern false) (s := drifted) (by decide +kernel)
  have hnone := h drifted tavern ⟨7⟩ reachable_drifted tavern_there_drifted not_admin_drifted
    report t hrun
  have hadmin : ∃ r ∈ (((Backend.memory newYear).syncScenario tavern false).run
      drifted).2.roles.rows, (⟨⟨7⟩, r.id⟩ : Link) ∈ (((Backend.memory newYear).syncScenario tavern
        false).run drifted).2.links.rows ∧ r.flags.isAdmin = true := by decide +kernel
  rw [hrun] at hadmin
  obtain ⟨r, hr, hl, hflag⟩ := hadmin
  rw [hnone r hr hl] at hflag
  cases hflag

end Gatehouse
