import Gatehouse.Proofs.Template.Stepwise

/-!
# Applying and the roster of roles

Which roles there are after templates were applied, and under which identities, does not depend on
the lines of the templates.  Grants are left out of sight for this (`Store.roster`): settling a role
does the same on a store without grants, and storing grants is not seen at all.  So two runs whose
templates have the same names and flags lead to the same roster, also at different moments
(`Transaction.sameRoster_of_run_applyRoles`).
-/

set_option autoImplicit false

namespace Gatehouse

/-- The templates have the same name and the same flags. -/
structure RoleTemplate.SameHead (d d' : RoleTemplate) : Prop where
  /-- The name is the same. -/
  name : d.name = d'.name
  /-- Holders of both may log in, or of neither. -/
  canLogin : d.canLogin = d'.canLogin
  /-- Holders of both administer the site, or of neither. -/
  isAdmin : d.isAdmin = d'.isAdmin

theorem RoleTemplate.SameHead.flags {d d' : RoleTemplate} (h : d.SameHead d') :
    d.flags = d'.flags := by
  rw [RoleTemplate.flags, h.canLogin, h.isAdmin, ← RoleTemplate.flags]

/-- The roles of a store, without links and grants. -/
def Store.roster (s : Store) : Store :=
  { s with links := .empty, grants := .empty, lastGrant := 0 }

/-- The stores have the same roles and give the same identities to new ones.  Only dates of roles
can differ. -/
def Store.SameRoster (s t : Store) : Prop := s.roster.Alike (fun _ _ => True) t.roster

namespace Store.SameRoster

variable {s t : Store}

theorem refl (s : Store) : s.SameRoster s := Store.Alike.refl (fun _ => trivial) s.roster

/-- What is looked up by its name is the same on both sides. -/
theorem roleNamed? (h : s.SameRoster t) (name : String) :
    Option.Rel (Role.Alike fun _ _ => True) (s.roleNamed? name) (t.roleNamed? name) :=
  Store.Alike.roleNamed? h name

end Store.SameRoster

namespace Transaction

variable {now later : Stamp} {s t u v : Store}

/-- Settling a role looks at names and flags only. -/
theorem settleRole_congr {d d' : RoleTemplate} (h : d.SameHead d') :
    (memory now).settleRole d = (memory now).settleRole d' := by
  rw [settleRole, settleRole, h.name, h.flags]

/-- Without grants a role is settled just the same. -/
theorem run_settleRole_roster {d : RoleTemplate} {p : Role × Snapshot}
    (h : ((memory now).settleRole d).run s = (.ok p, u)) :
    ∃ before, ((memory now).settleRole d).run s.roster = (.ok (p.1, before), u.roster) := by
  rw [settleRole, Action.run_bind_of_ok (run_roleNamed_memory now s d.name)] at h
  rw [settleRole, Action.run_bind_of_ok (run_roleNamed_memory now s.roster d.name)]
  have hsame : s.roster.roleNamed? d.name = s.roleNamed? d.name := rfl
  rw [hsame]
  cases hnamed : s.roleNamed? d.name with
  | some old =>
    rw [hnamed] at h
    dsimp only at h ⊢
    rw [Action.run_bind_of_ok (run_grantsOfRole_memory now s old.id),
      Action.run_bind_eq_ok_iff] at h
    obtain ⟨role, w, hset, hpure⟩ := h
    cases hpure
    obtain ⟨old', hold, rfl, rfl⟩ :=
      Store.setFlags_eq_ok_iff.1 (Action.run_attempt_eq_ok_iff.1 hset)
    have hroster : ((memory now).setFlags old.id d.flags).run s.roster = _ :=
      Action.run_attempt_eq_ok_iff.2 (Store.setFlags_eq_ok_iff.2 ⟨old', hold, rfl, rfl⟩)
    rw [Action.run_bind_of_ok (run_grantsOfRole_memory now s.roster old.id),
      Action.run_bind_of_ok hroster]
    exact ⟨_, rfl⟩
  | none =>
    rw [hnamed] at h
    dsimp only at h ⊢
    rw [Action.run_bind_eq_ok_iff] at h
    obtain ⟨role, w, hinsert, hpure⟩ := h
    cases hpure
    obtain ⟨hblank, hfree, rfl, rfl⟩ :=
      Store.insertRole_eq_ok_iff.1 (Action.run_attempt_eq_ok_iff.1 hinsert)
    have hroster :
        ((memory now).insertRole { name := d.name, flags := d.flags }).run s.roster = _ :=
      Action.run_attempt_eq_ok_iff.2 (Store.insertRole_eq_ok_iff.2 ⟨hblank, hfree, rfl, rfl⟩)
    rw [Action.run_bind_of_ok hroster]
    exact ⟨_, rfl⟩

/-- Settled on stores with the same roster, the roles are alike and the rosters stay the same. -/
theorem sameRoster_of_run_settleRole {d d' : RoleTemplate} (hd : d.SameHead d')
    (hst : s.SameRoster t) {p q : Role × Snapshot}
    (h : ((memory now).settleRole d).run s = (.ok p, u))
    (h' : ((memory later).settleRole d').run t = (.ok q, v)) : u.SameRoster v := by
  obtain ⟨before, hs⟩ := run_settleRole_roster h
  obtain ⟨before', ht⟩ := run_settleRole_roster h'
  rw [← settleRole_congr hd] at ht
  have hagree : Action.Agree (fun _ _ => True) _ ((memory now).settleRole d)
      ((memory later).settleRole d) := settleRole_agree (fun _ => trivial) trivial d
  obtain ⟨q', t', ht', -, hroster⟩ := hagree.of_ok hst hs
  rw [ht] at ht'
  cases ht'
  exact hroster

/-- Storing grants is not seen in the roster. -/
theorem roster_of_run_insertLines {role : RoleId} {ls : List GrantLine}
    (h : ((memory now).insertLines role ls).run s = (.ok (), t)) : t.roster = s.roster := by
  induction ls generalizing s with
  | nil =>
    cases h
    rfl
  | cons l rest ih =>
    rw [insertLines, Action.run_bind_eq_ok_iff] at h
    obtain ⟨id, u, hinsert, hrest⟩ := h
    obtain ⟨-, rfl, rfl⟩ := Store.insertGrant_eq_ok_iff.1 (Action.run_attempt_eq_ok_iff.1 hinsert)
    have hroster := ih hrest
    exact hroster

/-- After a template went through, the roster is as it was when the role was settled. -/
theorem roster_of_run_applyRole {d : RoleTemplate} {step : RoleStep}
    (h : ((memory now).applyRole d).run s = (.ok step, t)) :
    ∃ p u, ((memory now).settleRole d).run s = (.ok p, u) ∧ t.roster = u.roster := by
  rw [applyRole, Action.run_bind_eq_ok_iff] at h
  obtain ⟨⟨role, before⟩, u, hsettle, h⟩ := h
  rw [Action.run_bind_of_ok (run_clearRole_memory now u role.id), Action.run_bind_eq_ok_iff] at h
  obtain ⟨⟨⟩, w, hinsert, h⟩ := h
  rw [Action.run_bind_of_ok (run_grantsOfRole_memory now w role.id)] at h
  cases h
  have hroster := roster_of_run_insertLines hinsert
  exact ⟨_, u, hsettle, hroster⟩

/-- Templates with the same names and flags leave the same roster. -/
theorem sameRoster_of_run_applyRoles {ds ds' : List RoleTemplate}
    (hds : List.Forall₂ RoleTemplate.SameHead ds ds') (hst : s.SameRoster t)
    {steps steps' : List RoleStep} (h : ((memory now).applyRoles ds).run s = (.ok steps, u))
    (h' : ((memory later).applyRoles ds').run t = (.ok steps', v)) : u.SameRoster v := by
  -- On the pairs of templates; the stores between them have the same roster again.
  induction hds generalizing s t steps steps' with
  | nil =>
    cases h
    cases h'
    exact hst
  | cons hd _ ih =>
    obtain ⟨step, others, w, hstep, hrest, rfl⟩ := run_applyRoles_cons_eq_ok_iff.1 h
    obtain ⟨step', others', w', hstep', hrest', rfl⟩ := run_applyRoles_cons_eq_ok_iff.1 h'
    obtain ⟨p, x, hsettle, hw⟩ := roster_of_run_applyRole hstep
    obtain ⟨p', x', hsettle', hw'⟩ := roster_of_run_applyRole hstep'
    have hroster := sameRoster_of_run_settleRole hd hst hsettle hsettle'
    refine ih ?_ hrest hrest'
    rw [Store.SameRoster, hw, hw']
    exact hroster

end Transaction

end Gatehouse
