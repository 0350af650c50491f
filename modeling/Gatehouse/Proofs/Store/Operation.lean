import Gatehouse.Grant.Form
import Gatehouse.Proofs.Action
import Gatehouse.Proofs.Table
import Gatehouse.Scenario.Basic
import Gatehouse.Store.Backend

/-!
# What can be done to a store

`Operation` lists the calls of a backend that can change a store and `Write` those of a
transaction; all other calls only read.  `Operation.after` and `Write.after` are the state a call
leaves, whether it succeeded or failed.

Everything these calls can do to the store itself is one of eight effects (`Store.Effect`), and
`Operation.effect` and `Write.effect` are the only places that look into the calls.  An invariant
of the store is proved by going through the effects.

A grant gets into the store from a draft, and a draft comes from `Draft.new` and the functions that
narrow and mark it (`Draft.Made`), also where a form or a line of a scenario stands for it.
-/

set_option autoImplicit false

namespace Gatehouse

open Std

/-! ## Drafts -/

/-- The draft was made by starting from `Draft.new` and narrowing and marking it. -/
inductive Draft.Made : Draft → Prop
  | new (owner : Owner) (area action : String) : Made (.new owner area action)
  | onItem {d : Draft} (h : Made d) (item : String) : Made (d.onItem item)
  | onInstance {d : Draft} (h : Made d) (item : String) (id : Int32) : Made (d.onInstance item id)
  | withRule {d : Draft} (h : Made d) (rule : Rule) : Made (d.withRule rule)
  | withItemRule {d : Draft} (h : Made d) (remark : String) : Made (d.withItemRule remark)
  | withExtra {d : Draft} (h : Made d) (remark : String) : Made (d.withExtra remark)
  | inForce {d : Draft} (h : Made d) (active : Bool) : Made (d.inForce active)

/-- A draft with an instance has an item. -/
theorem Draft.Made.item_isSome {d : Draft} (h : d.Made) (hid : d.itemId.isSome = true) :
    d.item.isSome = true := by
  induction h with
  | new owner area action => simp [Draft.new] at hid
  | onItem h item ih => rfl
  | onInstance h item id ih => rfl
  | withRule h rule ih => exact ih hid
  | withItemRule h remark ih => exact ih hid
  | withExtra h remark ih => exact ih hid
  | inForce h active ih => exact ih hid

theorem GrantLine.draft_made (l : GrantLine) (role : RoleId) : (l.draft role).Made := by
  rw [GrantLine.draft]
  split
  · exact (Draft.Made.new _ _ _).onInstance _ _
  · exact (Draft.Made.new _ _ _).onItem _
  · exact .new _ _ _

theorem GrantForm.bareDraft_made {f : GrantForm} {owner : Owner} {d : Draft}
    (h : f.bareDraft owner = .ok d) : d.Made := by
  have hwhole := ((Draft.Made.new owner f.area f.action).withRule f.rule).inForce f.active
  rw [bareDraft] at h
  split at h <;> cases h
  · exact hwhole.onInstance _ _
  · exact hwhole.onItem _
  · exact hwhole

/-- What a form asks for can be made. -/
theorem GrantForm.draft_made {f : GrantForm} {d : Draft} (h : f.draft = .ok d) : d.Made := by
  rw [draft] at h
  obtain ⟨owner, -, h⟩ := except_bind_eq_ok_iff.1 h
  by_cases harea : allBlank f.area = true
  · rw [if_pos harea] at h; cases h
  by_cases haction : allBlank f.action = true
  · rw [if_neg harea] at h; dsimp only at h; rw [if_pos haction] at h; cases h
  simp only [if_neg harea, if_neg haction] at h
  obtain ⟨bare, hbare, h⟩ := except_bind_eq_ok_iff.1 h
  have hmade := bareDraft_made hbare
  cases h
  cases f.itemRule <;> cases f.extra
  · exact hmade
  · exact hmade.withExtra _
  · exact hmade.withItemRule _
  · exact (hmade.withItemRule _).withExtra _

/-! ## Calls -/

/-- A call of a backend that can change what is stored. -/
inductive Operation where
  /-- Creates a role. -/
  | createRole (new : NewRole)
  /-- Changes a role. -/
  | changeRole (id : RoleId) (change : RoleChange)
  /-- Lets a user hold a role. -/
  | assign (user : UserId) (role : RoleId)
  /-- Takes a role from a user. -/
  | revoke (user : UserId) (role : RoleId)
  /-- Stores a grant. -/
  | createGrant (d : Draft)
  /-- Removes a grant. -/
  | deleteGrant (id : GrantId)
  /-- Puts a grant in or out of force. -/
  | setActive (id : GrantId) (active : Bool)
  /-- Removes all grants of a role. -/
  | clearRole (id : RoleId)
  /-- Removes the grants of a role on exactly a section, item and action. -/
  | deleteAlike (role : RoleId) (area : String) (item : Option String) (action : String)
deriving DecidableEq, Repr

/-- A call of a transaction that can change its copy. -/
inductive Write where
  /-- Creates a role. -/
  | insertRole (new : NewRole)
  /-- Sets the flags of a role. -/
  | setFlags (id : RoleId) (flags : RoleFlags)
  /-- Removes all grants of a role. -/
  | clearRole (id : RoleId)
  /-- Stores a grant. -/
  | insertGrant (d : Draft)
deriving DecidableEq, Repr

/-- The call stores only a draft that can be made. -/
def Operation.Proper : Operation → Prop
  | .createGrant d => d.Made
  | _ => True

@[inherit_doc Operation.Proper]
def Write.Proper : Write → Prop
  | .insertGrant d => d.Made
  | _ => True

/-- The state after a call. -/
def Operation.after {σ τ : Type} (b : Backend σ τ) (s : σ) : Operation → σ
  | .createRole new => ((b.createRole new).run s).2
  | .changeRole id change => ((b.changeRole id change).run s).2
  | .assign user role => ((b.assign user role).run s).2
  | .revoke user role => ((b.revoke user role).run s).2
  | .createGrant d => ((b.createGrant d).run s).2
  | .deleteGrant id => ((b.deleteGrant id).run s).2
  | .setActive id active => ((b.setActive id active).run s).2
  | .clearRole id => ((b.clearRole id).run s).2
  | .deleteAlike role area item action => ((b.deleteAlike role area item action).run s).2

@[inherit_doc Operation.after]
def Write.after {τ : Type} (t : Transaction τ) (w : τ) : Write → τ
  | .insertRole new => ((t.insertRole new).run w).2
  | .setFlags id flags => ((t.setFlags id flags).run w).2
  | .clearRole id => ((t.clearRole id).run w).2
  | .insertGrant d => ((t.insertGrant d).run w).2

/-! ## Effects -/

namespace Store

/-- What one call can do to a store. -/
inductive Effect (s : Store) : Store → Prop
  /-- Nothing. -/
  | none : Effect s s
  /-- A role under a new identity, with a name that no role has. -/
  | roleAdded (role : Role) (id : role.id = ⟨s.lastRole + 1⟩)
      (name : ∀ r ∈ s.roles, r.name ≠ role.name) :
      Effect s { s with roles := s.roles.insert role, lastRole := s.lastRole + 1 }
  /-- A role in place of the one with its identity, with its name or one that no other role has. -/
  | roleSet (old role : Role) (mem : old ∈ s.roles) (id : role.id = old.id)
      (name : role.name = old.name ∨ ∀ r ∈ s.roles, r.name = role.name → r.id = old.id) :
      Effect s (s.setRole role)
  /-- A user holds a role that is there. -/
  | linked (user : UserId) (role : Role) (mem : role ∈ s.roles) :
      Effect s { s with links := s.links.insert ⟨user, role.id⟩ }
  /-- Some users do not hold some roles any more. -/
  | unlinked (p : Link → Bool) : Effect s { s with links := s.links.filter p }
  /-- A grant under a new identity; a role that owns it is there. -/
  | grantAdded (d : Draft) (made : d.Made)
      (owner : ∀ id, d.owner = .role id → ∃ r ∈ s.roles, r.id = id) :
      Effect s { s with
        grants := s.grants.insert (d.store ⟨s.lastGrant + 1⟩), lastGrant := s.lastGrant + 1 }
  /-- Some grants are gone. -/
  | grantsRemoved (p : Grant → Bool) : Effect s { s with grants := s.grants.filter p }
  /-- A grant is put in or out of force. -/
  | grantSwitched (g : Grant) (mem : g ∈ s.grants) (active : Bool) :
      Effect s { s with grants := s.grants.insert (g.inForce active) }

/-! ## Look-ups -/

theorem byId_role_eq_iff {r r' : Role} : Role.byId r r' = .eq ↔ r.id = r'.id := by
  show compare r.id r'.id = .eq ↔ _
  exact LawfulEqCmp.compare_eq_iff_eq

/-- Two roles with one identity are one role. -/
theorem eq_of_id_eq {s : Store} {r r' : Role} (hr : r ∈ s.roles) (hr' : r' ∈ s.roles)
    (h : r.id = r'.id) : r = r' :=
  Table.eq_of_mem hr hr' (byId_role_eq_iff.2 h)

theorem byId_grant_eq_iff {g g' : Grant} : Grant.byId g g' = .eq ↔ g.id = g'.id := by
  show compare g.id g'.id = .eq ↔ _
  exact LawfulEqCmp.compare_eq_iff_eq

theorem mem_roles_insert {s : Store} {role r : Role} :
    r ∈ s.roles.insert role ↔ r = role ∨ r ∈ s.roles ∧ r.id ≠ role.id := by
  rw [Table.mem_insert, ne_eq, byId_role_eq_iff, @eq_comm _ role.id]

theorem mem_grants_insert {s : Store} {grant g : Grant} :
    g ∈ s.grants.insert grant ↔ g = grant ∨ g ∈ s.grants ∧ g.id ≠ grant.id := by
  rw [Table.mem_insert, ne_eq, byId_grant_eq_iff, @eq_comm _ grant.id]

theorem role?_eq_some_iff {s : Store} {id : RoleId} {r : Role} :
    s.role? id = some r ↔ r ∈ s.roles ∧ r.id = id := by
  rw [role?, Table.find?_eq_some_iff]
  · simp
  · intro r' hr hr'
    exact byId_role_eq_iff.2 ((eq_of_beq hr).trans (eq_of_beq hr').symm)

theorem role?_eq_none_iff {s : Store} {id : RoleId} :
    s.role? id = none ↔ ∀ r ∈ s.roles, r.id ≠ id := by
  rw [role?, Table.find?_eq_none_iff]
  simp

theorem grant?_eq_some_iff {s : Store} {id : GrantId} {g : Grant} :
    s.grant? id = some g ↔ g ∈ s.grants ∧ g.id = id := by
  rw [grant?, Table.find?_eq_some_iff]
  · simp
  · intro g' hg hg'
    exact byId_grant_eq_iff.2 ((eq_of_beq hg).trans (eq_of_beq hg').symm)

theorem roleNamed?_eq_none_iff {s : Store} {name : String} :
    s.roleNamed? name = none ↔ ∀ r ∈ s.roles, r.name ≠ name := by
  rw [roleNamed?, Table.find?_eq_none_iff]
  simp

theorem owner_role?_beq_iff {g : Grant} {id : RoleId} :
    (g.owner.role? == some id) = true ↔ g.owner = .role id := by
  cases g.owner <;> simp [Owner.role?]

theorem mem_grantsWhere {s : Store} {p : Grant → Bool} {g : Grant} :
    g ∈ s.grantsWhere p ↔ g ∈ s.grants ∧ p g = true := by
  rw [grantsWhere, mem_sortBy, List.mem_filter, Table.mem_def]

theorem mem_grantsOfRole {s : Store} {id : RoleId} {g : Grant} :
    g ∈ s.grantsOfRole id ↔ g ∈ s.grants ∧ g.owner = .role id := by
  rw [grantsOfRole, mem_grantsWhere, owner_role?_beq_iff]

theorem nodup_grantsOfRole (s : Store) (id : RoleId) : (s.grantsOfRole id).Nodup :=
  (sortBy_perm _ _).nodup_iff.2 ((Table.nodup_rows s.grants).filter _)

/-- Stores with the same grants of a role list them alike. -/
theorem grantsOfRole_congr {s t : Store} {id : RoleId}
    (h : ∀ g, g.owner = .role id → (g ∈ t.grants ↔ g ∈ s.grants)) :
    t.grantsOfRole id = s.grantsOfRole id := by
  rw [grantsOfRole, grantsOfRole, grantsWhere, grantsWhere, Table.filter_rows_congr]
  exact fun g hg => h g (owner_role?_beq_iff.1 hg)

theorem nameTaken_eq_false_iff {s : Store} {id : RoleId} {name : String} :
    s.nameTaken id name = false ↔ ∀ r ∈ s.roles, r.name = name → r.id = id := by
  simp only [nameTaken, List.any_eq_false, ← Table.mem_def]
  refine forall₂_congr fun r _ => ?_
  simp only [Bool.and_eq_true, bne_iff_ne, beq_iff_eq]
  constructor
  · intro h hname
    exact Decidable.byContradiction fun hid => h ⟨hid, hname⟩
  · rintro h ⟨hid, hname⟩
    exact hid (h hname)

/-! ## What the operations of the store do when they succeed -/

theorem insertRole_eq_ok_iff {s t : Store} {now : Stamp} {new : NewRole} {role : Role} :
    s.insertRole now new = .ok (role, t) ↔
      allBlank new.name = false ∧ s.roleNamed? new.name = none ∧
        role = ⟨⟨s.lastRole + 1⟩, new.name, new.flags, some (new.publicProfileAt.getD now)⟩ ∧
        t = { s with roles := s.roles.insert role, lastRole := s.lastRole + 1 } := by
  rw [insertRole]
  cases hblank : allBlank new.name <;> cases hname : s.roleNamed? new.name <;> simp
  constructor <;> rintro ⟨rfl, rfl⟩ <;> exact ⟨rfl, rfl⟩

theorem setFlags_eq_ok_iff {s t : Store} {id : RoleId} {flags : RoleFlags} {role : Role} :
    s.setFlags id flags = .ok (role, t) ↔
      ∃ old, s.role? id = some old ∧ role = { old with flags := flags } ∧ t = s.setRole role := by
  rw [setFlags]
  cases s.role? id with
  | none => simp
  | some old =>
    simp only [Except.ok.injEq, Prod.mk.injEq, Option.some.injEq, exists_eq_left']
    constructor <;> rintro ⟨rfl, rfl⟩ <;> exact ⟨rfl, rfl⟩

theorem changeRole_eq_ok_iff {s t : Store} {id : RoleId} {change : RoleChange} {r : Option Role} :
    s.changeRole id change = .ok (r, t) ↔
      (∀ name, change.name = some name → ∀ r' ∈ s.roles, r'.name = name → r'.id = id) ∧
        (s.role? id = none ∧ r = none ∧ t = s ∨
          ∃ old, s.role? id = some old ∧ r = some (old.changed change) ∧
            t = s.setRole (old.changed change)) := by
  have hfree : (∀ name, change.name = some name → ∀ r' ∈ s.roles, r'.name = name → r'.id = id) ↔
      change.name.filter (s.nameTaken id) = none := by
    rw [Option.filter_eq_none_iff]
    exact forall₂_congr fun name _ => by rw [← nameTaken_eq_false_iff, Bool.not_eq_true]
  rw [hfree, changeRole]
  cases change.name.filter (s.nameTaken id) with
  | some name => simp
  | none => cases s.role? id <;> simp [eq_comm]

theorem assign_eq_ok_iff {s t : Store} {user : UserId} {id : RoleId} {new : Bool} :
    s.assign user id = .ok (new, t) ↔ (∃ r ∈ s.roles, r.id = id) ∧
      new = decide (⟨user, id⟩ ∉ s.links) ∧ t = { s with links := s.links.insert ⟨user, id⟩ } := by
  rw [assign]
  cases hrole : s.role? id with
  | none =>
    have hnone : ¬∃ r ∈ s.roles, r.id = id := by simpa using role?_eq_none_iff.1 hrole
    simp [hnone]
  | some role =>
    rw [and_iff_right ⟨role, role?_eq_some_iff.1 hrole⟩]
    dsimp only
    split
    · rename_i hl
      rw [Table.insert_of_mem hl, decide_eq_false (not_not_intro hl), Except.ok.injEq,
        Prod.mk.injEq]
      exact and_congr eq_comm eq_comm
    · rename_i hl
      rw [decide_eq_true hl, Except.ok.injEq, Prod.mk.injEq]
      exact and_congr eq_comm eq_comm

theorem insertGrant_eq_ok_iff {s t : Store} {d : Draft} {id : GrantId} :
    s.insertGrant d = .ok (id, t) ↔
      (∀ role, d.owner = .role role → ∃ r ∈ s.roles, r.id = role) ∧ id = ⟨s.lastGrant + 1⟩ ∧
        t = { s with grants := s.grants.insert (d.store id), lastGrant := s.lastGrant + 1 } := by
  rw [insertGrant]
  cases hfilter : d.owner.role?.filter fun role => (s.role? role).isNone with
  | some role =>
    rw [Option.filter_eq_some_iff] at hfilter
    obtain ⟨howner, hnone⟩ := hfilter
    rw [Option.isNone_iff_eq_none, role?_eq_none_iff] at hnone
    cases ho : d.owner with
    | user => rw [ho] at howner; cases howner
    | role role' =>
      rw [ho] at howner
      cases howner
      refine iff_of_false (fun h => by cases h) fun h => ?_
      obtain ⟨r, hr, hid⟩ := h.1 role rfl
      exact hnone r hr hid
  | none =>
    have howned : ∀ role, d.owner = .role role → ∃ r ∈ s.roles, r.id = role := by
      intro role ho
      rw [ho, Owner.role?, Option.filter_eq_none_iff] at hfilter
      have hsome := hfilter role rfl
      rw [Bool.not_eq_true, Option.isNone_eq_false_iff, Option.isSome_iff_exists] at hsome
      obtain ⟨r, hr⟩ := hsome
      exact ⟨r, role?_eq_some_iff.1 hr⟩
    simp only [Except.ok.injEq, Prod.mk.injEq]
    constructor
    · rintro ⟨rfl, rfl⟩
      exact ⟨howned, rfl, rfl⟩
    · rintro ⟨-, rfl, rfl⟩
      exact ⟨rfl, rfl⟩

/-! ## What calls do to the store -/

/-- Something tried on a store has no more effect than when it succeeds. -/
theorem Effect.of_attempt {α : Type} {s : Store} {f : Store → Except Error (α × Store)}
    (h : ∀ a t, f s = .ok (a, t) → s.Effect t) : s.Effect ((Action.attempt f).run s).2 :=
  Action.state_attempt .none h

theorem insertRole_effect {s t : Store} {now : Stamp} {new : NewRole} {role : Role}
    (h : s.insertRole now new = .ok (role, t)) : s.Effect t := by
  obtain ⟨-, hname, hrole, rfl⟩ := insertRole_eq_ok_iff.1 h
  refine .roleAdded role (by rw [hrole]) ?_
  rw [hrole]
  exact roleNamed?_eq_none_iff.1 hname

theorem setFlags_effect {s t : Store} {id : RoleId} {flags : RoleFlags} {role : Role}
    (h : s.setFlags id flags = .ok (role, t)) : s.Effect t := by
  obtain ⟨old, hold, rfl, rfl⟩ := setFlags_eq_ok_iff.1 h
  exact .roleSet old _ (role?_eq_some_iff.1 hold).1 rfl (.inl rfl)

theorem changeRole_effect {s t : Store} {id : RoleId} {change : RoleChange} {r : Option Role}
    (h : s.changeRole id change = .ok (r, t)) : s.Effect t := by
  obtain ⟨hfree, ⟨-, -, rfl⟩ | ⟨old, hold, -, rfl⟩⟩ := changeRole_eq_ok_iff.1 h
  · exact .none
  · obtain ⟨hmem, rfl⟩ := role?_eq_some_iff.1 hold
    refine .roleSet old _ hmem rfl ?_
    cases hname : change.name with
    | none => exact .inl (by rw [Role.changed, hname]; rfl)
    | some name =>
      refine .inr fun r hr hrname => hfree name hname r hr ?_
      rwa [Role.changed, hname] at hrname

theorem insertGrant_effect {s t : Store} {d : Draft} {id : GrantId} (hd : d.Made)
    (h : s.insertGrant d = .ok (id, t)) : s.Effect t := by
  obtain ⟨howner, rfl, rfl⟩ := insertGrant_eq_ok_iff.1 h
  exact .grantAdded d hd howner

theorem assign_effect {s t : Store} {user : UserId} {id : RoleId} {new : Bool}
    (h : s.assign user id = .ok (new, t)) : s.Effect t := by
  obtain ⟨⟨role, hmem, rfl⟩, -, rfl⟩ := assign_eq_ok_iff.1 h
  exact .linked user role hmem

theorem setActive_effect (s : Store) (id : GrantId) (active : Bool) :
    s.Effect (s.setActive id active).2 := by
  rw [setActive]
  cases hgrant : s.grant? id with
  | none => exact .none
  | some g => exact .grantSwitched g (grant?_eq_some_iff.1 hgrant).1 active

end Store

/-- A call on the store has one of the effects. -/
theorem Operation.effect {op : Operation} (h : op.Proper) (now : Stamp) (s : Store) :
    s.Effect (op.after (.memory now) s) := by
  cases op with
  | createRole new => exact .of_attempt fun _ _ => Store.insertRole_effect
  | changeRole id change => exact .of_attempt fun _ _ => Store.changeRole_effect
  | assign user role => exact .of_attempt fun _ _ => Store.assign_effect
  | revoke user role => exact .unlinked _
  | createGrant d => exact .of_attempt fun _ _ => Store.insertGrant_effect h
  | deleteGrant id => exact .grantsRemoved _
  | setActive id active => exact s.setActive_effect id active
  | clearRole id => exact .grantsRemoved _
  | deleteAlike role area item action => exact .grantsRemoved _

/-- A call of a transaction has one of the effects on its copy. -/
theorem Write.effect {x : Write} (h : x.Proper) (now : Stamp) (w : Store) :
    w.Effect (x.after (.memory now) w) := by
  cases x with
  | insertRole new => exact .of_attempt fun _ _ => Store.insertRole_effect
  | setFlags id flags => exact .of_attempt fun _ _ => Store.setFlags_effect
  | clearRole id => exact .grantsRemoved _
  | insertGrant d => exact .of_attempt fun _ _ => Store.insertGrant_effect h

/-! ## What single calls leave -/

namespace Operation

variable {now : Stamp} {s : Store}

/-- The call is about roles and who holds them, and leaves grants alone. -/
def LeavesGrants : Operation → Prop
  | .createRole _ | .changeRole _ _ | .assign _ _ | .revoke _ _ => True
  | .createGrant _ | .deleteGrant _ | .setActive _ _ | .clearRole _ | .deleteAlike _ _ _ _ => False

theorem LeavesGrants.grants_after {op : Operation} (h : op.LeavesGrants) :
    (op.after (.memory now) s).grants = s.grants := by
  cases op with
  | createRole new =>
    refine Action.state_attempt (P := fun t : Store => t.grants = s.grants) rfl fun role t h => ?_
    rw [(Store.insertRole_eq_ok_iff.1 h).2.2.2]
  | changeRole id change =>
    refine Action.state_attempt (P := fun t : Store => t.grants = s.grants) rfl fun role t h => ?_
    obtain ⟨-, ⟨-, -, rfl⟩ | ⟨old, -, -, rfl⟩⟩ := Store.changeRole_eq_ok_iff.1 h <;> rfl
  | assign user role =>
    refine Action.state_attempt (P := fun t : Store => t.grants = s.grants) rfl fun new t h => ?_
    rw [(Store.assign_eq_ok_iff.1 h).2.2]
  | revoke user role => rfl
  | createGrant | deleteGrant | setActive | clearRole | deleteAlike => exact h.elim

/-- The call is about grants and who holds which role, and leaves roles alone. -/
def LeavesRoles : Operation → Prop
  | .createRole _ | .changeRole _ _ => False
  | .assign _ _ | .revoke _ _ | .createGrant _ | .deleteGrant _ | .setActive _ _ | .clearRole _
  | .deleteAlike _ _ _ _ => True

theorem LeavesRoles.roles_after {op : Operation} (h : op.LeavesRoles) :
    (op.after (.memory now) s).roles = s.roles := by
  cases op with
  | createRole | changeRole => exact h.elim
  | assign user role =>
    refine Action.state_attempt (P := fun t : Store => t.roles = s.roles) rfl fun new t h => ?_
    rw [(Store.assign_eq_ok_iff.1 h).2.2]
  | createGrant d =>
    refine Action.state_attempt (P := fun t : Store => t.roles = s.roles) rfl fun id t h => ?_
    rw [(Store.insertGrant_eq_ok_iff.1 h).2.2]
  | setActive id active =>
    show (s.setActive id active).2.roles = s.roles
    rw [Store.setActive]
    split <;> rfl
  | revoke | deleteGrant | clearRole | deleteAlike => rfl

/-- Storing a grant adds it under the next identity, or does nothing if it fails. -/
theorem after_createGrant (d : Draft) :
    (createGrant d).after (.memory now) s = s ∨ (createGrant d).after (.memory now) s = { s with
      grants := s.grants.insert (d.store ⟨s.lastGrant + 1⟩), lastGrant := s.lastGrant + 1 } := by
  refine Action.state_attempt (P := fun t => t = s ∨ t = _) (.inl rfl) fun id t h => ?_
  obtain ⟨-, rfl, rfl⟩ := Store.insertGrant_eq_ok_iff.1 h
  exact .inr rfl

/-- Putting a grant in or out of force writes it anew, or does nothing if it is not there. -/
theorem after_setActive (id : GrantId) (active : Bool) :
    (setActive id active).after (.memory now) s = s ∨ ∃ g ∈ s.grants, g.id = id ∧
      (setActive id active).after (.memory now) s =
        { s with grants := s.grants.insert (g.inForce active) } := by
  show (s.setActive id active).2 = s ∨ ∃ g ∈ s.grants, g.id = id ∧ (s.setActive id active).2 = _
  rw [Store.setActive]
  cases hfound : s.grant? id with
  | none => exact .inl rfl
  | some g =>
    obtain ⟨hg, hid⟩ := Store.grant?_eq_some_iff.1 hfound
    exact .inr ⟨g, hg, hid, rfl⟩

end Operation

end Gatehouse
