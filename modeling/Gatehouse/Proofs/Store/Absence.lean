import Gatehouse.Proofs.Store.Reachable

/-!
# What is not there

Calls can name a role or a grant that is not in the store.  None of them changes anything, and each
tells in its own way that there is nothing under the identity: some fail, some answer that they did
nothing, some give nothing (`Store.RoleMissing`, `Store.GrantMissing`).  Calls that only remove
something look at links and grants and not at roles; that they find nothing to remove takes a store
in which links and grants lead to roles that are there.

A change of a role looks at the new name first.  So a change that gives a missing role the name of
another one is refused for its name, and nothing is said of the role
(`missing_role_hidden_by_name`).
-/

set_option autoImplicit false

namespace Gatehouse

theorem Table.filter_eq_self {α : Type} {cmp : α → α → Ordering} {t : Table cmp} {p : α → Bool}
    (h : ∀ a ∈ t, p a = true) : t.filter p = t :=
  Table.ext (List.filter_eq_self.2 h)

namespace Store

variable {s : Store}

/-! ## Nothing to remove -/

theorem revoke_of_not_mem {user : UserId} {role : RoleId} (h : ⟨user, role⟩ ∉ s.links) :
    s.revoke user role = (false, s) := by
  have hrest : s.links.filter (· ≠ ⟨user, role⟩) = s.links :=
    Table.filter_eq_self fun l hl => decide_eq_true fun heq => h (heq ▸ hl)
  rw [revoke, hrest, decide_eq_false h]

theorem deleteGrants_of_none {p : Grant → Bool} (h : ∀ g ∈ s.grants, p g = false) :
    s.deleteGrants p = (0, s) := by
  have hrest : s.grants.filter (fun g => !p g) = s.grants :=
    Table.filter_eq_self fun g hg => by rw [h g hg, Bool.not_false]
  simp only [deleteGrants, hrest, Nat.sub_self]

theorem deleteGrant_of_none {id : GrantId} (h : s.grant? id = none) :
    s.deleteGrant id = (false, s) := by
  have hrest : s.grants.filter (·.id != id) = s.grants :=
    Table.filter_eq_self fun g hg => bne_iff_ne.2 fun hid =>
      Option.some_ne_none g <| (grant?_eq_some_iff.2 ⟨hg, hid⟩).symm.trans h
  rw [deleteGrant, hrest, h, Option.isSome_none]

/-- A grant of a missing role cannot be stored. -/
theorem insertGrant_of_role_none {d : Draft} {id : RoleId} (howner : d.owner = .role id)
    (h : s.role? id = none) : s.insertGrant d = .error (.notFound (.role id)) := by
  rw [insertGrant, howner, Owner.role?, Option.filter_some, h, Option.isNone_none]
  rfl

theorem Coherent.not_linked (hs : s.Coherent) {id : RoleId} (h : s.role? id = none)
    (user : UserId) : ⟨user, id⟩ ∉ s.links := fun hl => by
  obtain ⟨r, hr, hid⟩ := hs.linked _ hl
  exact role?_eq_none_iff.1 h r hr hid

theorem Coherent.not_owned (hs : s.Coherent) {id : RoleId} (h : s.role? id = none) :
    ∀ g ∈ s.grants, (g.owner.role? == some id) = false := fun g hg => by
  rw [← Bool.not_eq_true, owner_role?_beq_iff]
  intro howner
  obtain ⟨r, hr, hid⟩ := hs.owned g hg id howner
  exact role?_eq_none_iff.1 h r hr hid

/-! ## What is told -/

/-- How calls about a role are answered if no role has the identity. -/
structure RoleMissing (now : Stamp) (s : Store) (id : RoleId) : Prop where
  /-- Looking the role up gives none. -/
  role : ((Backend.memory now).role id).run s = (.ok none, s)
  /-- A change gives none, if the name it gives is free, -/
  changeRole : ∀ change : RoleChange,
    (∀ name, change.name = some name → ∀ r ∈ s.roles, r.name ≠ name) →
      ((Backend.memory now).changeRole id change).run s = (.ok none, s)
  /-- and is refused if it is not. -/
  nameTaken : ∀ (change : RoleChange) (name : String), change.name = some name →
    (∃ r ∈ s.roles, r.name = name) → ((Backend.memory now).changeRole id change).run s =
      (.error (.validation (.roleNameTaken name)), s)
  /-- Nobody can be given the role, -/
  assign : ∀ user, ((Backend.memory now).assign user id).run s = (.error (.notFound (.role id)), s)
  /-- nobody held it, -/
  revoke : ∀ user, ((Backend.memory now).revoke user id).run s = (.ok false, s)
  /-- and nobody holds it. -/
  usersOf : ((Backend.memory now).usersOf id).run s = (.ok [], s)
  /-- It cannot be given a grant, -/
  createGrant : ∀ d : Draft, d.owner = .role id →
    ((Backend.memory now).createGrant d).run s = (.error (.notFound (.role id)), s)
  /-- it has none, -/
  grantsOfRole : ((Backend.memory now).grantsOfRole id).run s = (.ok [], s)
  /-- and there are none to remove, neither all -/
  clearRole : ((Backend.memory now).clearRole id).run s = (.ok 0, s)
  /-- nor those on a section, item and action. -/
  deleteAlike : ∀ area item action,
    ((Backend.memory now).deleteAlike id area item action).run s = (.ok 0, s)

/-- How calls of a transaction about a role are answered if no role of its copy has the identity. -/
structure RoleMissingWithin (now : Stamp) (w : Store) (id : RoleId) : Prop where
  /-- Its flags cannot be set, -/
  setFlags : ∀ flags,
    ((Transaction.memory now).setFlags id flags).run w = (.error (.notFound (.role id)), w)
  /-- it cannot be given a grant, -/
  insertGrant : ∀ d : Draft, d.owner = .role id →
    ((Transaction.memory now).insertGrant d).run w = (.error (.notFound (.role id)), w)
  /-- it has none, -/
  grantsOfRole : ((Transaction.memory now).grantsOfRole id).run w = (.ok [], w)
  /-- and there are none to remove. -/
  clearRole : ((Transaction.memory now).clearRole id).run w = (.ok 0, w)

/-- How calls about a grant are answered if no grant has the identity. -/
structure GrantMissing (now : Stamp) (s : Store) (id : GrantId) : Prop where
  /-- Looking the grant up gives none. -/
  grant : ((Backend.memory now).grant id).run s = (.ok none, s)
  /-- It cannot be removed. -/
  deleteGrant : ((Backend.memory now).deleteGrant id).run s = (.ok false, s)
  /-- It cannot be put in or out of force. -/
  setActive : ∀ active, ((Backend.memory now).setActive id active).run s = (.ok false, s)

/-- For a role that is not there, the name of any role is taken. -/
theorem nameTaken_iff_of_none {id : RoleId} (h : s.role? id = none) {name : String} :
    s.nameTaken id name = true ↔ ∃ r ∈ s.roles, r.name = name := by
  simp only [nameTaken, List.any_eq_true, ← Table.mem_def, Bool.and_eq_true, bne_iff_ne, beq_iff_eq]
  constructor
  · rintro ⟨r, hr, -, hname⟩
    exact ⟨r, hr, hname⟩
  · rintro ⟨r, hr, hname⟩
    exact ⟨r, hr, role?_eq_none_iff.1 h r hr, hname⟩

theorem changeRole_of_none {id : RoleId} (h : s.role? id = none) {change : RoleChange}
    (hfree : ∀ name, change.name = some name → ∀ r ∈ s.roles, r.name ≠ name) :
    s.changeRole id change = .ok (none, s) := by
  have hnone : change.name.filter (s.nameTaken id) = none := by
    rw [Option.filter_eq_none_iff]
    intro name hname htaken
    obtain ⟨r, hr, hrname⟩ := (nameTaken_iff_of_none h).1 htaken
    exact hfree name hname r hr hrname
  rw [changeRole, hnone]
  dsimp only
  rw [h]

/-- The name is looked at before the role. -/
theorem changeRole_of_nameTaken {id : RoleId} {change : RoleChange} {name : String}
    (hname : change.name = some name) (htaken : s.nameTaken id name = true) :
    s.changeRole id change = .error (.validation (.roleNameTaken name)) := by
  rw [changeRole, hname, Option.filter_some, if_pos htaken]

theorem Coherent.usersOf_of_none (hs : s.Coherent) {id : RoleId} (h : s.role? id = none) :
    s.usersOf id = [] := by
  rw [usersOf, List.map_eq_nil_iff, List.filter_eq_nil_iff]
  rintro ⟨user, role⟩ hl hrole
  rw [beq_iff_eq] at hrole
  exact hs.not_linked h user (hrole ▸ hl)

theorem Coherent.grantsOfRole_of_none (hs : s.Coherent) {id : RoleId} (h : s.role? id = none) :
    s.grantsOfRole id = [] := by
  refine List.eq_nil_iff_forall_not_mem.2 fun g hg => ?_
  obtain ⟨hmem, howner⟩ := mem_grantsOfRole.1 hg
  obtain ⟨r, hr, hid⟩ := hs.owned g hmem id howner
  exact role?_eq_none_iff.1 h r hr hid

/-- A role that is not there has no grants to remove. -/
theorem Coherent.clearRole_of_none (hs : s.Coherent) {id : RoleId} (h : s.role? id = none) :
    s.clearRole id = (0, s) := deleteGrants_of_none (hs.not_owned h)

theorem Coherent.deleteAlike_of_none (hs : s.Coherent) {id : RoleId} (h : s.role? id = none)
    (area : String) (item : Option String) (action : String) :
    s.deleteAlike id area item action = (0, s) :=
  deleteGrants_of_none fun g hg => by rw [hs.not_owned h g hg]; rfl

variable (now : Stamp)

theorem Coherent.roleMissing (hs : s.Coherent) {id : RoleId} (h : s.role? id = none) :
    s.RoleMissing now id where
  role := Action.run_query_of_eq h
  changeRole change hfree := Action.run_attempt_eq_ok_iff.2 (changeRole_of_none h hfree)
  nameTaken change name hname hthere := Action.run_attempt_of_error <|
    changeRole_of_nameTaken hname ((nameTaken_iff_of_none h).2 hthere)
  assign user := Action.run_attempt_of_error (by rw [Store.assign, h])
  revoke user := Action.run_update_of_eq (revoke_of_not_mem (hs.not_linked h user))
  usersOf := Action.run_query_of_eq (hs.usersOf_of_none h)
  createGrant d howner := Action.run_attempt_of_error (insertGrant_of_role_none howner h)
  grantsOfRole := Action.run_query_of_eq (hs.grantsOfRole_of_none h)
  clearRole := Action.run_update_of_eq (hs.clearRole_of_none h)
  deleteAlike area item action :=
    Action.run_update_of_eq (hs.deleteAlike_of_none h area item action)

theorem Coherent.roleMissingWithin (hs : s.Coherent) {id : RoleId} (h : s.role? id = none) :
    s.RoleMissingWithin now id where
  setFlags flags := Action.run_attempt_of_error (by rw [Store.setFlags, h])
  insertGrant d howner := Action.run_attempt_of_error (insertGrant_of_role_none howner h)
  grantsOfRole := Action.run_query_of_eq (hs.grantsOfRole_of_none h)
  clearRole := Action.run_update_of_eq (hs.clearRole_of_none h)

theorem grantMissing {id : GrantId} (h : s.grant? id = none) : s.GrantMissing now id where
  grant := Action.run_query_of_eq h
  deleteGrant := Action.run_update_of_eq (deleteGrant_of_none h)
  setActive active := Action.run_update_of_eq (by rw [Store.setActive, h])

theorem grant?_eq_none_iff {id : GrantId} : s.grant? id = none ↔ ∀ g ∈ s.grants, g.id ≠ id := by
  rw [grant?, Table.find?_eq_none_iff]
  simp

end Store

/-- **Calls about what is not there change nothing and tell that it is not there**, also the calls
of a transaction on its copy.  A change that gives a role that is not there the name of another one
is the exception: it is refused for the name. -/
theorem absence_is_told (now : Stamp) {s : Store} (hs : s.Reachable) :
    (∀ id, (∀ r ∈ s.roles, r.id ≠ id) → s.RoleMissing now id) ∧
    (∀ w, Session (fun _ _ => True) s w → ∀ id, (∀ r ∈ w.roles, r.id ≠ id) →
      w.RoleMissingWithin now id) ∧
    ∀ id, (∀ g ∈ s.grants, g.id ≠ id) → s.GrantMissing now id := by
  refine ⟨fun id h => ?_, fun w hw id h => ?_, fun id h => ?_⟩
  · exact hs.coherent.roleMissing now (Store.role?_eq_none_iff.2 h)
  · have hcopy : w.Coherent := (hs.commit hw).coherent
    exact hcopy.roleMissingWithin now (Store.role?_eq_none_iff.2 h)
  · exact Store.grantMissing now (Store.grant?_eq_none_iff.2 h)

/-- The teams have neither a ninth role nor a ninth grant. -/
theorem absence_is_told_teams :
    teams.Reachable ∧ teams.RoleMissing newYear ⟨9⟩ ∧ printingTeams.RoleMissingWithin newYear ⟨9⟩ ∧
      teams.GrantMissing newYear ⟨9⟩ ∧
      ((Backend.memory newYear).changeRole ⟨9⟩ { canLogin := some true }).run teams =
        (.ok none, teams) := by
  have hteams : teams.Reachable := reachableInRange_teams.reachable
  have hsession : Session (fun _ _ => True) teams printingTeams := by
    refine .write newYear (.write newYear .opened trivial trivial) ?_ trivial
    exact loanLine.draft_made ⟨4⟩
  have hrole : ∀ r ∈ teams.roles.rows, r.id ≠ ⟨9⟩ := by decide +kernel
  have hcopy : ∀ r ∈ printingTeams.roles.rows, r.id ≠ ⟨9⟩ := by decide +kernel
  have hgrant : ∀ g ∈ teams.grants.rows, g.id ≠ ⟨9⟩ := by decide +kernel
  obtain ⟨hroles, hcopies, hgrants⟩ := absence_is_told newYear hteams
  refine ⟨hteams, hroles _ hrole, hcopies _ hsession _ hcopy, hgrants _ hgrant, ?_⟩
  exact (hroles _ hrole).changeRole _ fun name hname => by cases hname

/-- A role that is not there and is to get the name of the writers is not told to be missing. -/
theorem missing_role_hidden_by_name :
    ¬∀ (s : Store) (id : RoleId) (change : RoleChange), s.ReachableInRange →
      (∀ r ∈ s.roles, r.id ≠ id) →
        ((Backend.memory newYear).changeRole id change).run s = (.ok none, s) := by
  intro h
  have hrole : ∀ r ∈ teams.roles.rows, r.id ≠ ⟨9⟩ := by decide +kernel
  have hrun := h teams ⟨9⟩ { name := some "writers" } reachableInRange_teams hrole
  have hfailed : (((Backend.memory newYear).changeRole ⟨9⟩ { name := some "writers" }).run
      teams).1.isOk = false := by decide +kernel
  rw [hrun] at hfailed
  cases hfailed

end Gatehouse
