import Gatehouse.Proofs.Template.Applied

/-!
# When applying succeeds

Of the calls that are made when a template is applied only one can be refused: a role cannot be
created under a blank name.  A role that is there has its flags set, whatever its name, and once the
role is settled it can own grants.  So a template goes through if its role is there or can be
created (`Store.Takes`), and a scenario that is in order if all its templates do; applying one of
them does not make the store refuse another, nor take it.

The check of a scenario counts the characters of a name and the store looks for one that is not
blank, so a scenario that is in order can still be refused (`applyScenario_goes_through_iff`).
-/

set_option autoImplicit false

namespace Gatehouse

/-- The role of the template is there, or it can be created because its name is not blank. -/
def Store.Takes (s : Store) (d : RoleTemplate) : Prop :=
  (∃ r ∈ s.roles, r.name = d.name) ∨ allBlank d.name = false

/-- Applying a template makes no difference to one with another name. -/
theorem Store.Applied.takes_iff {s t : Store} {d e : RoleTemplate} (h : s.Applied t [d])
    (hne : d.name ≠ e.name) : t.Takes e ↔ s.Takes e := by
  have hother : ∀ r : Role, r.name = e.name → ∀ d' ∈ [d], d'.name ≠ r.name :=
    fun r hname d' hd' => by rwa [List.mem_singleton.1 hd', hname]
  refine or_congr_left (exists_congr fun r => ?_)
  exact and_congr_left fun hname => h.roles r (hother r hname)

/-- A template that is not taken has a blank name that no role has. -/
theorem Store.not_takes_iff {s : Store} {d : RoleTemplate} :
    ¬s.Takes d ↔ s.roleNamed? d.name = none ∧ allBlank d.name = true := by
  rw [Takes, not_or, roleNamed?_eq_none_iff, not_exists, Bool.not_eq_false]
  exact and_congr_left' (forall_congr' fun r => not_and)

variable (now : Stamp) {s : Store}

/-! ## A single template -/

theorem exists_run_settleRole {d : RoleTemplate} (h : s.Takes d) :
    ∃ p u, ((Transaction.memory now).settleRole d).run s = (.ok p, u) := by
  rw [Transaction.settleRole, Action.run_bind_of_ok (Transaction.run_roleNamed_memory now s d.name)]
  cases hnamed : s.roleNamed? d.name with
  | some old =>
    have hold : old ∈ s.roles := List.mem_of_find?_eq_some hnamed
    have hfound : s.role? old.id = some old := Store.role?_eq_some_iff.2 ⟨hold, rfl⟩
    have hset : ((Transaction.memory now).setFlags old.id d.flags).run s = _ :=
      Action.run_attempt_eq_ok_iff.2 (Store.setFlags_eq_ok_iff.2 ⟨old, hfound, rfl, rfl⟩)
    exact ⟨_, _, Action.run_bind_of_ok hset⟩
  | none =>
    have hnone : ∀ r ∈ s.roles, r.name ≠ d.name := Store.roleNamed?_eq_none_iff.1 hnamed
    have hblank : allBlank d.name = false := by
      refine h.resolve_left ?_
      rintro ⟨r, hr, hname⟩
      exact hnone r hr hname
    have hinsert :
        ((Transaction.memory now).insertRole { name := d.name, flags := d.flags }).run s = _ :=
      Action.run_attempt_eq_ok_iff.2 (Store.insertRole_eq_ok_iff.2 ⟨hblank, hnamed, rfl, rfl⟩)
    exact ⟨_, _, Action.run_bind_of_ok hinsert⟩

/-- Grants can be stored for a role that is there. -/
theorem exists_run_insertLines {role : RoleId} (h : ∃ r ∈ s.roles, r.id = role)
    (ls : List GrantLine) :
    ∃ t, ((Transaction.memory now).insertLines role ls).run s = (.ok (), t) := by
  induction ls generalizing s with
  | nil => exact ⟨s, rfl⟩
  | cons l rest ih =>
    have howner : ∀ id, (l.draft role).owner = .role id → ∃ r ∈ s.roles, r.id = id := by
      intro id hid
      rw [l.owner_draft] at hid
      cases hid
      exact h
    have hinsert : ((Transaction.memory now).insertGrant (l.draft role)).run s = _ :=
      Action.run_attempt_eq_ok_iff.2 (Store.insertGrant_eq_ok_iff.2 ⟨howner, rfl, rfl⟩)
    rw [Transaction.insertLines, Action.run_bind_of_ok hinsert]
    exact ih h

theorem exists_run_applyRole {d : RoleTemplate} (hs : s.ReachableInRange)
    (hroom : s.Room 1 d.lines.length) (h : s.Takes d) :
    ∃ step t, ((Transaction.memory now).applyRole d).run s = (.ok step, t) := by
  obtain ⟨p, u, hsettle⟩ := exists_run_settleRole now h
  have hsettled := settled_of_run hs (hroom.mono (Nat.le_refl 1) (Nat.zero_le _)) hsettle
  have hmem : p.1 ∈ u.roles := hsettled.mem_roles.2 (.inl rfl)
  -- Removing the grants leaves the roles as they are.
  have howner : ∃ r ∈ (u.clearRole p.1.id).2.roles, r.id = p.1.id := ⟨p.1, hmem, rfl⟩
  obtain ⟨t, hinsert⟩ := exists_run_insertLines now howner d.lines
  rw [Transaction.applyRole, Action.run_bind_of_ok hsettle]
  dsimp only
  rw [Action.run_bind_of_ok (Transaction.run_clearRole_memory now u p.1.id),
    Action.run_bind_of_ok hinsert]
  exact ⟨_, _, Action.run_bind_of_ok (Transaction.run_grantsOfRole_memory now t p.1.id)⟩

/-! ## A scenario -/

/-- A template that is taken goes through before others, and whether these are taken is the same
afterwards. -/
theorem exists_run_applyRole_first {d : RoleTemplate} {rest : List RoleTemplate}
    (hs : s.ReachableInRange) (hroom : s.Room (d :: rest).length (lineCount (d :: rest)))
    (hlines : ∀ l ∈ d.lines, l.instanceHasItem = true)
    (hnames : ((d :: rest).map (·.name)).Nodup) (h : s.Takes d) :
    ∃ step u, ((Transaction.memory now).applyRole d).run s = (.ok step, u) ∧
      u.ReachableInRange ∧ u.Room rest.length (lineCount rest) ∧
      ∀ e ∈ rest, u.Takes e ↔ s.Takes e := by
  obtain ⟨step, u, hstep⟩ := exists_run_applyRole now hs hroom.first h
  obtain ⟨hd, hu, huroom, hne⟩ := first_applied_of_run hs hroom hlines hnames hstep
  exact ⟨step, u, hstep, hu, huroom, fun e he => hd.takes_iff (hne e he).symm⟩

/-- Templates with different names go through one after the other. -/
theorem exists_run_applyRoles {ds : List RoleTemplate} (hs : s.ReachableInRange)
    (hroom : s.Room ds.length (lineCount ds))
    (hlines : ∀ d ∈ ds, ∀ l ∈ d.lines, l.instanceHasItem = true)
    (hnames : (ds.map (·.name)).Nodup) (h : ∀ d ∈ ds, s.Takes d) :
    ∃ steps t, ((Transaction.memory now).applyRoles ds).run s = (.ok steps, t) := by
  -- On the templates; the store after the first one takes the others.
  induction ds generalizing s with
  | nil => exact ⟨[], s, rfl⟩
  | cons d rest ih =>
    obtain ⟨step, u, hstep, hu, huroom, htakes⟩ := exists_run_applyRole_first now hs hroom
      (hlines d List.mem_cons_self) hnames (h d List.mem_cons_self)
    obtain ⟨steps, t, hrest⟩ := ih hu huroom (fun e he => hlines e (List.mem_cons_of_mem d he))
      (List.nodup_cons.1 hnames).2 fun e he => (htakes e he).2 (h e (List.mem_cons_of_mem d he))
    rw [Transaction.applyRoles, Action.run_bind_of_ok hstep]
    exact ⟨_, _, Action.run_bind_of_ok hrest⟩

/-- A scenario that is in order can be applied to a store that takes all its templates and has room
for the new identities. -/
theorem exists_run_applyScenario {sc : Scenario} (hs : s.ReachableInRange)
    (hcheck : sc.check = .ok ()) (hroom : s.Room sc.roles.length (lineCount sc.roles))
    (h : ∀ d ∈ sc.roles, s.Takes d) (run : String) :
    ∃ report t, ((Backend.memory now).applyScenario run sc).run s = (.ok report, t) := by
  obtain ⟨-, hroles, hnames⟩ := Scenario.check_eq_ok_iff.1 hcheck
  obtain ⟨steps, t, hrun⟩ := exists_run_applyRoles now hs hroom
    (fun d hd => (hroles d hd).instanceHasItem) hnames h
  exact ⟨_, t, run_applyScenario_memory_eq_ok_iff.2 ⟨hcheck, steps, rfl, hrun⟩⟩

/-! ## What stands in the way -/

theorem run_applyRole_of_not_takes {d : RoleTemplate} (h : ¬s.Takes d) :
    ((Transaction.memory now).applyRole d).run s = (.error (.validation .blankRoleName), s) := by
  obtain ⟨hnamed, hblank⟩ := Store.not_takes_iff.1 h
  have hinsert : ((Transaction.memory now).insertRole { name := d.name, flags := d.flags }).run s =
      (.error (.validation .blankRoleName), s) := by
    show (Action.attempt _).run s = _
    rw [Action.run_attempt, Store.insertRole, if_pos hblank]
  have hsettle : ((Transaction.memory now).settleRole d).run s =
      (.error (.validation .blankRoleName), s) := by
    rw [Transaction.settleRole,
      Action.run_bind_of_ok (Transaction.run_roleNamed_memory now s d.name), hnamed]
    exact Action.run_bind_of_error hinsert
  rw [Transaction.applyRole, Action.run_bind_of_error hsettle]

/-- The first template that is not taken ends the run. -/
theorem run_applyRoles_of_not_takes {ds : List RoleTemplate} (hs : s.ReachableInRange)
    (hroom : s.Room ds.length (lineCount ds))
    (hlines : ∀ d ∈ ds, ∀ l ∈ d.lines, l.instanceHasItem = true)
    (hnames : (ds.map (·.name)).Nodup) (h : ∃ d ∈ ds, ¬s.Takes d) :
    ∃ t, ((Transaction.memory now).applyRoles ds).run s =
      (.error (.validation .blankRoleName), t) := by
  -- On the templates; what the store does not take at first, it does not take later on.
  induction ds generalizing s with
  | nil =>
    obtain ⟨d, hd, -⟩ := h
    cases hd
  | cons d rest ih =>
    rw [Transaction.applyRoles]
    by_cases hd : s.Takes d
    · obtain ⟨step, u, hstep, hu, huroom, htakes⟩ := exists_run_applyRole_first now hs hroom
        (hlines d List.mem_cons_self) hnames hd
      have hrest : ∃ e ∈ rest, ¬u.Takes e := by
        obtain ⟨e, he, hnot⟩ := h
        rcases List.mem_cons.1 he with rfl | he
        · exact absurd hd hnot
        · exact ⟨e, he, (htakes e he).not.2 hnot⟩
      obtain ⟨t, hrun⟩ := ih hu huroom (fun e he => hlines e (List.mem_cons_of_mem d he))
        (List.nodup_cons.1 hnames).2 hrest
      exact ⟨t, by rw [Action.run_bind_of_ok hstep, Action.run_bind_of_error hrun]⟩
    · exact ⟨s, Action.run_bind_of_error (run_applyRole_of_not_takes now hd)⟩

/-- **When a scenario that is in order can be applied.**  A store with room for the new identities
has the scenario applied exactly if each of its roles is there or has a name that is not blank.
Otherwise the blank name is reported, from inside the transaction, and nothing changes. -/
theorem applyScenario_goes_through_iff {sc : Scenario} (hs : s.ReachableInRange)
    (hcheck : sc.check = .ok ()) (hroom : s.Room sc.roles.length (lineCount sc.roles))
    (run : String) :
    ((∃ report t, ((Backend.memory now).applyScenario run sc).run s = (.ok report, t)) ↔
        ∀ d ∈ sc.roles, s.Takes d) ∧
      ((∃ d ∈ sc.roles, ¬s.Takes d) → ((Backend.memory now).applyScenario run sc).run s =
        (.error (.validation .blankRoleName), s)) := by
  have hfails : (∃ d ∈ sc.roles, ¬s.Takes d) →
      ((Backend.memory now).applyScenario run sc).run s =
        (.error (.validation .blankRoleName), s) := fun h => by
    obtain ⟨-, hroles, hnames⟩ := Scenario.check_eq_ok_iff.1 hcheck
    obtain ⟨t, hrun⟩ := run_applyRoles_of_not_takes now hs hroom
      (fun d hd => (hroles d hd).instanceHasItem) hnames h
    have hwithin : ((Backend.memory now).within.applyRoles sc.roles).run s =
        (.error (.validation .blankRoleName), t) := hrun
    show ((ApplyCall.applyScenario sc).action (.memory now) .empty run).run s = _
    simp only [ApplyCall.run_action, ApplyCall.plan, hcheck, Backend.run_begin_memory, hwithin]
  refine ⟨⟨fun hruns d hd => ?_, fun h => exists_run_applyScenario now hs hcheck hroom h run⟩,
    hfails⟩
  obtain ⟨report, t, hrun⟩ := hruns
  by_contra hnot
  rw [hfails ⟨d, hd, hnot⟩] at hrun
  cases hrun

/-- A scenario in which the first role has a name and the second one has a blank name. -/
def unsigned : Scenario where
  name := "unsigned"
  roles := [{ name := "readers", lines := [{ area := "news", action := "see" }] }, { name := " " }]

/-- It passes the check and is refused by the teams, in whose store the first role was created
before. -/
theorem applyScenario_goes_through_iff_unsigned :
    unsigned.check = .ok () ∧ teams.ReachableInRange ∧
      ((Backend.memory newYear).applyScenario "1" unsigned).run teams =
        (.error (.validation .blankRoleName), teams) := by
  have hproblems : unsigned.problems = [] := by decide +kernel
  have hcheck : unsigned.check = .ok () := by rw [Scenario.check, hproblems]
  have hroom : teams.Room unsigned.roles.length (lineCount unsigned.roles) := by
    constructor <;> decide
  have hnot : ∃ d ∈ unsigned.roles, ¬teams.Takes d :=
    ⟨{ name := " " }, by decide, Store.not_takes_iff.2 ⟨by decide +kernel, by decide⟩⟩
  exact ⟨hcheck, reachableInRange_teams,
    (applyScenario_goes_through_iff newYear reachableInRange_teams hcheck hroom "1").2 hnot⟩

/-- A scenario whose only role has a blank name. -/
def nameless : Scenario where
  name := "blank"
  roles := [{ name := " " }]

/-- Passing the check is not enough, not even for the empty store. -/
theorem not_applied_though_in_order :
    ¬∀ (s : Store) (sc : Scenario), s.ReachableInRange → sc.check = .ok () →
      s.Room sc.roles.length (lineCount sc.roles) →
        ∃ report t, ((Backend.memory newYear).applyScenario "1" sc).run s = (.ok report, t) := by
  intro h
  have hproblems : nameless.problems = [] := by decide +kernel
  have hcheck : nameless.check = .ok () := by rw [Scenario.check, hproblems]
  have hroom : Store.empty.Room nameless.roles.length (lineCount nameless.roles) := by
    constructor <;> decide
  obtain ⟨report, t, hrun⟩ := h .empty nameless .empty hcheck hroom
  have hfailed : (((Backend.memory newYear).applyScenario "1" nameless).run .empty).1.isOk =
      false := by decide +kernel
  rw [hrun] at hfailed
  cases hfailed

end Gatehouse
