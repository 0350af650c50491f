import Gatehouse.Proofs.Store.Memory
import Gatehouse.Proofs.Template.Exchange

/-!
# Moving users to the roles of a scenario

Moving users looks at the store once and then works through the users it has seen.  What it is going
to change is therefore known beforehand (`Store.syncChanges`), and so are the calls it makes for
that (`Store.syncCalls`).  On any backend it makes these calls one after the other
(`Backend.syncUsers_eq`); `run_syncScenario_memory` is what comes of them in memory.

The calls touch nothing but the links, and no role is both given to a user and taken from the user.
So it does not matter for the outcome in which order they are made (`Store.afterAll_aboutLinks`):
each user holds exactly what the roles held before have become (`Store.holds_syncCalls_iff`).
-/

set_option autoImplicit false

namespace Gatehouse

open Std

variable (now : Stamp) {s : Store}

/-! ## Making calls -/

/-- Makes a call, whatever its result. -/
def Operation.perform {σ τ : Type} (b : Backend σ τ) : Operation → Action σ Unit
  | .createRole new => (fun _ => ()) <$> b.createRole new
  | .changeRole id change => (fun _ => ()) <$> b.changeRole id change
  | .assign user role => (fun _ => ()) <$> b.assign user role
  | .revoke user role => (fun _ => ()) <$> b.revoke user role
  | .createGrant d => (fun _ => ()) <$> b.createGrant d
  | .deleteGrant id => (fun _ => ()) <$> b.deleteGrant id
  | .setActive id active => (fun _ => ()) <$> b.setActive id active
  | .clearRole id => (fun _ => ()) <$> b.clearRole id
  | .deleteAlike role area item action => (fun _ => ()) <$> b.deleteAlike role area item action

namespace Backend

variable {σ τ : Type} (b : Backend σ τ)

/-- Makes calls one after the other. -/
def performAll : List Operation → Action σ Unit
  | [] => pure ()
  | op :: rest => do
    op.perform b
    performAll rest

theorem performAll_append (xs ys : List Operation) :
    b.performAll (xs ++ ys) = b.performAll xs >>= fun _ => b.performAll ys := by
  induction xs with
  | nil => simp [performAll]
  | cons op rest ih => simp [performAll, ih]

end Backend

/-- Calls that store no grants lead from a reachable store to a reachable one. -/
theorem Store.Reachable.afterAll_of_proper (hs : s.Reachable) {ops : List Operation}
    (hops : ∀ op ∈ ops, op.Proper) : (s.afterAll now ops).Reachable := by
  induction ops generalizing s with
  | nil => exact hs
  | cons op rest ih =>
    exact ih (hs.call now (hops op List.mem_cons_self) trivial)
      fun op' hop => hops op' (List.mem_cons_of_mem op hop)

theorem Store.afterAll_cons (op : Operation) (ops : List Operation) :
    s.afterAll now (op :: ops) = (op.after (.memory now) s).afterAll now ops := rfl

/-! ## Calls about links -/

/-- The call gives a user a role that is there or takes one away. -/
def Operation.AboutLinks (s : Store) : Operation → Prop
  | .assign _ id => ∃ r ∈ s.roles, r.id = id
  | .revoke _ _ => True
  | _ => False

theorem run_assign_memory (user : UserId) {id : RoleId} (h : ∃ r ∈ s.roles, r.id = id) :
    ∃ new, ((Backend.memory now).assign user id).run s =
      (.ok new, { s with links := s.links.insert ⟨user, id⟩ }) :=
  ⟨_, Action.run_attempt_eq_ok_iff.2 (Store.assign_eq_ok_iff.2 ⟨h, rfl, rfl⟩)⟩

theorem Store.after_assign (user : UserId) {id : RoleId} (h : ∃ r ∈ s.roles, r.id = id) :
    (Operation.assign user id).after (.memory now) s =
      { s with links := s.links.insert ⟨user, id⟩ } := by
  obtain ⟨new, hrun⟩ := run_assign_memory now user h
  exact congrArg Prod.snd hrun

namespace Operation.AboutLinks

variable {op : Operation}

theorem proper (h : op.AboutLinks s) : op.Proper := by
  cases op with
  | createGrant d => exact h.elim
  | _ => trivial

theorem of_roles (h : op.AboutLinks s) {t : Store} (ht : t.roles = s.roles) : op.AboutLinks t := by
  cases op with
  | assign user id => rw [AboutLinks, ht]; exact h
  | _ => exact h

/-- Such a call goes through, -/
theorem run (h : op.AboutLinks s) :
    (op.perform (Backend.memory now)).run s = (.ok (), op.after (.memory now) s) := by
  cases op with
  | assign user id =>
    obtain ⟨new, hrun⟩ := run_assign_memory now user h
    rw [perform, map_eq_pure_bind, Action.run_bind_of_ok hrun, Store.after_assign now user h]
    rfl
  | revoke user id => rfl
  | _ => exact h.elim

/-- and it changes nothing but links. -/
theorem roles_after (h : op.AboutLinks s) : (op.after (.memory now) s).roles = s.roles := by
  cases op with
  | assign user id => rw [Store.after_assign now user h]
  | revoke user id => rfl
  | _ => exact h.elim

end Operation.AboutLinks

theorem run_performAll_memory {ops : List Operation} (h : ∀ op ∈ ops, op.AboutLinks s) :
    ((Backend.memory now).performAll ops).run s = (.ok (), s.afterAll now ops) := by
  induction ops generalizing s with
  | nil => rfl
  | cons op rest ih =>
    have hop := h op List.mem_cons_self
    rw [Backend.performAll, Action.run_bind_of_ok (hop.run now)]
    exact ih fun op' hop' => (h op' (List.mem_cons_of_mem op hop')).of_roles (hop.roles_after now)

/-- Where no role is both given to a user and taken from the user, the order of the calls does not
matter: afterwards the users hold what they held or were given and nothing that was taken. -/
theorem Store.afterAll_aboutLinks {ops : List Operation} (h : ∀ op ∈ ops, op.AboutLinks s)
    (hops : ∀ user id, .assign user id ∈ ops → .revoke user id ∉ ops) :
    ∃ links, s.afterAll now ops = { s with links := links } ∧
      ∀ user id, ⟨user, id⟩ ∈ links ↔
        (⟨user, id⟩ ∈ s.links ∨ .assign user id ∈ ops) ∧ .revoke user id ∉ ops := by
  induction ops generalizing s with
  | nil => exact ⟨s.links, rfl, by simp⟩
  | cons op rest ih =>
    have hop := h op List.mem_cons_self
    have hrest := fun op' hop' => h op' (List.mem_cons_of_mem op hop')
    have hops' : ∀ user id, .assign user id ∈ rest → .revoke user id ∉ rest :=
      fun user id ha hr => hops user id (List.mem_cons_of_mem op ha) (List.mem_cons_of_mem op hr)
    cases op with
    | assign user id =>
      obtain ⟨links, hlinks, hmem⟩ :=
        ih (s := { s with links := s.links.insert ⟨user, id⟩ }) hrest hops'
      refine ⟨links, by rw [afterAll_cons, after_assign now user hop, hlinks], fun u i => ?_⟩
      rw [hmem, Table.mem_insert_self_key]
      simp only [List.mem_cons, Operation.assign.injEq, Link.mk.injEq, reduceCtorEq, false_or]
      tauto
    | revoke user id =>
      obtain ⟨links, hlinks, hmem⟩ := ih (s := (s.revoke user id).2) hrest hops'
      refine ⟨links, hlinks, fun u i => ?_⟩
      have hgiven := hops u i
      rw [hmem, revoke, Table.mem_filter, decide_eq_true_iff]
      simp only [List.mem_cons, Operation.revoke.injEq, Link.mk.injEq, reduceCtorEq, false_or,
        ne_eq] at hgiven ⊢
      tauto
    | _ => exact hop.elim

/-! ## The calls for a change -/

/-- The identities of the roles gained. -/
def KnownRoles.gained (known : KnownRoles) (c : UserChange) : List RoleId :=
  c.add.filterMap known.id?

/-- The identities of the roles lost. -/
def UserChange.lost (roles : Table Role.byId) (c : UserChange) : List RoleId :=
  c.remove.filterMap fun name => (roles.find? (·.name == name)).map (·.id)

/-- The calls that make a change: what is gained comes before what is lost. -/
def KnownRoles.calls (known : KnownRoles) (roles : Table Role.byId) (c : UserChange) :
    List Operation :=
  (known.gained c).map (.assign c.user) ++ (c.lost roles).map (.revoke c.user)

namespace Backend

variable {σ τ : Type} (b : Backend σ τ)

theorem assignAll_eq (user : UserId) (id? : String → Option RoleId) (names : List String) :
    b.assignAll user id? names = b.performAll ((names.filterMap id?).map (.assign user)) := by
  induction names with
  | nil => rfl
  | cons name rest ih =>
    rw [assignAll]
    cases hid : id? name with
    | none => simp [hid, ih]
    | some id => simp [hid, ih, performAll, Operation.perform]

theorem revokeAll_eq (user : UserId) (id? : String → Option RoleId) (names : List String) :
    b.revokeAll user id? names = b.performAll ((names.filterMap id?).map (.revoke user)) := by
  induction names with
  | nil => rfl
  | cons name rest ih =>
    rw [revokeAll]
    cases hid : id? name with
    | none => simp [hid, ih]
    | some id => simp [hid, ih, performAll, Operation.perform]

/-- Making a change is making the calls for it. -/
theorem makeChange_eq (known : KnownRoles) (roles : Table Role.byId) (c : UserChange) :
    b.makeChange known roles c = b.performAll (known.calls roles c) := by
  rw [makeChange, assignAll_eq, revokeAll_eq, KnownRoles.calls, performAll_append]
  rfl

end Backend

section Change

variable {known : KnownRoles} {roles : Table Role.byId} {c : UserChange} {user : UserId}
  {id : RoleId}

theorem KnownRoles.assign_mem_calls_iff :
    .assign user id ∈ known.calls roles c ↔ c.user = user ∧ id ∈ known.gained c := by
  simp [calls, and_comm]

theorem KnownRoles.revoke_mem_calls_iff :
    .revoke user id ∈ known.calls roles c ↔ c.user = user ∧ id ∈ c.lost roles := by
  simp [calls, and_comm]

/-- The roles gained are roles of the scenario. -/
theorem exists_role_of_mem_gained (h : ∀ p ∈ known, p.2 ∈ s.roles) :
    ∀ id ∈ known.gained c, ∃ r ∈ s.roles, r.id = id := by
  intro id hid
  obtain ⟨name, -, hname⟩ := List.mem_filterMap.1 hid
  obtain ⟨p, hp, rfl⟩ := Option.map_eq_some_iff.1 hname
  exact ⟨p.2, h p (List.mem_of_find?_eq_some hp), rfl⟩

theorem aboutLinks_calls (h : ∀ p ∈ known, p.2 ∈ s.roles) :
    ∀ op ∈ known.calls roles c, op.AboutLinks s := by
  intro op hop
  rcases List.mem_append.1 hop with hop | hop <;> obtain ⟨id, hid, rfl⟩ := List.mem_map.1 hop
  · exact exists_role_of_mem_gained h id hid
  · trivial

end Change

/-! ## The run -/

namespace Store

/-- The changes for some users, leaving out those for whom nothing changes. -/
def changesFor (s : Store) (known : KnownRoles) (users : List UserId) : List UserChange :=
  (users.map fun user => known.change user (s.held user)).filter fun c => !c.isEmpty

/-- What moving the users to a scenario changes. -/
def syncChanges (s : Store) (sc : Scenario) : List UserChange :=
  s.changesFor (s.known sc.roles) (linkedUsers s.links.rows)

/-- The calls that moving the users to a scenario makes. -/
def syncCalls (s : Store) (sc : Scenario) : List Operation :=
  (s.syncChanges sc).flatMap ((s.known sc.roles).calls s.roles)

theorem aboutLinks_syncCalls (hs : s.Coherent) (sc : Scenario) :
    ∀ op ∈ s.syncCalls sc, op.AboutLinks s := by
  intro op hop
  obtain ⟨c, -, hop⟩ := List.mem_flatMap.1 hop
  exact aboutLinks_calls (fun p hp => ((mem_known hs).1 hp).2.1) op hop

end Store

/-- The roles of a scenario are looked up in order, and the first one that is not there is told. -/
theorem run_knownRoles_memory (scenario : String) (ds : List RoleTemplate) :
    ((Backend.memory now).knownRoles scenario ds).run s =
      match ds.find? fun d => (s.roleNamed? d.name).isNone with
      | some d => (.error (.notFound (.roleNotApplied d.name scenario)), s)
      | none => (.ok (s.known ds), s) := by
  induction ds with
  | nil => rfl
  | cons d rest ih =>
    rw [Backend.knownRoles, Action.run_bind_of_ok (Backend.run_roleNamed_memory now s d.name)]
    cases hnamed : s.roleNamed? d.name with
    | none =>
      rw [List.find?_cons_of_pos (by rw [hnamed]; rfl)]
      rfl
    | some r =>
      rw [List.find?_cons_of_neg (by simp [hnamed]),
        Action.run_bind_of_ok (Action.run_require_eq_ok_iff.2 ⟨rfl, rfl⟩), Action.run_bind, ih]
      cases rest.find? fun d => (s.roleNamed? d.name).isNone with
      | some d' => rfl
      | none => simp [Store.known, hnamed]

/-- Whatever the backend, users are worked through with what was seen at first: the calls for their
changes are made one after the other. -/
theorem Backend.syncUsers_eq {σ τ : Type} (b : Backend σ τ) (s : Store) (known : KnownRoles)
    (dryRun : Bool) (users : List UserId) :
    b.syncUsers known s.roles s.links.rows dryRun users = do
      if !dryRun then b.performAll ((s.changesFor known users).flatMap (known.calls s.roles))
      return s.changesFor known users := by
  induction users with
  | nil => cases dryRun <;> rfl
  | cons user rest ih =>
    rw [syncUsers]
    have hheld : ((s.links.rows.filter (·.user == user)).filterMap fun l =>
        s.roles.find? (·.id == l.role)) = s.held user := rfl
    simp only [hheld]
    cases hempty : (known.change user (s.held user)).isEmpty with
    | true =>
      have hchanges : s.changesFor known (user :: rest) = s.changesFor known rest := by
        simp [Store.changesFor, hempty]
      rw [if_pos rfl, hchanges, ih]
    | false =>
      have hchanges : s.changesFor known (user :: rest) =
          known.change user (s.held user) :: s.changesFor known rest := by
        simp [Store.changesFor, hempty]
      cases dryRun <;> simp [hchanges, ih, makeChange_eq, performAll_append]

/-- A scenario whose roles are all there. -/
theorem find?_isNone_eq_none_iff {ds : List RoleTemplate} :
    (ds.find? fun d => (s.roleNamed? d.name).isNone) = none ↔
      ∀ d ∈ ds, ∃ r ∈ s.roles, r.name = d.name := by
  rw [List.find?_eq_none]
  refine forall₂_congr fun d _ => ?_
  rw [Option.isNone_iff_eq_none, Store.roleNamed?_eq_none_iff]
  simp

/-- Whatever the backend, if the roles of the scenario are found and roles and links are those of
the store `s`, then the run is a matter of making the calls for `s`. -/
theorem Backend.run_syncScenario_of_reads {σ τ : Type} {b : Backend σ τ} {w : σ} {sc : Scenario}
    (hknown : (b.knownRoles sc.name sc.roles).run w = (.ok (s.known sc.roles), w))
    (hroles : b.roles.run w = (.ok s.roleList, w)) (hlinks : b.links.run w = (.ok s.links.rows, w))
    (dryRun : Bool) :
    (b.syncScenario sc dryRun).run w =
      Action.run (do
        if !dryRun then b.performAll (s.syncCalls sc)
        return ⟨sc.name, dryRun, s.syncChanges sc⟩) w := by
  have htable : (Table.ofList s.roleList : Table Role.byId) = s.roles :=
    Table.ofList_eq_of_perm (sortBy_perm _ _)
  have hcalls : (s.changesFor (s.known sc.roles) (linkedUsers s.links.rows)).flatMap
      ((s.known sc.roles).calls s.roles) = s.syncCalls sc := rfl
  rw [syncScenario, Action.run_bind_of_ok hknown, Action.run_bind_of_ok hroles, htable,
    Action.run_bind_of_ok hlinks, syncUsers_eq, hcalls]
  cases dryRun <;> simp [Store.syncChanges]

theorem run_syncScenario_memory (hs : s.Coherent) {sc : Scenario}
    (hthere : ∀ d ∈ sc.roles, ∃ r ∈ s.roles, r.name = d.name) (dryRun : Bool) :
    ((Backend.memory now).syncScenario sc dryRun).run s =
      (.ok ⟨sc.name, dryRun, s.syncChanges sc⟩,
        if dryRun then s else s.afterAll now (s.syncCalls sc)) := by
  have hknown : ((Backend.memory now).knownRoles sc.name sc.roles).run s =
      (.ok (s.known sc.roles), s) := by
    rw [run_knownRoles_memory, find?_isNone_eq_none_iff.2 hthere]
  rw [Backend.run_syncScenario_of_reads hknown (Backend.run_roles_memory now s)
    (Backend.run_links_memory now s)]
  cases dryRun with
  | true => rfl
  | false =>
    exact Action.run_bind_of_ok (run_performAll_memory now (Store.aboutLinks_syncCalls hs sc))

/-- The first role that is not there ends the run before anything is changed. -/
theorem run_syncScenario_of_missing {sc : Scenario} {d : RoleTemplate}
    (h : (sc.roles.find? fun d => (s.roleNamed? d.name).isNone) = some d) (dryRun : Bool) :
    ((Backend.memory now).syncScenario sc dryRun).run s =
      (.error (.notFound (.roleNotApplied d.name sc.name)), s) := by
  rw [Backend.syncScenario]
  exact Action.run_bind_of_error (by rw [run_knownRoles_memory, h])

/-! ## Who holds what afterwards -/

namespace Store

variable {sc : Scenario}

/-- A user holds the role with a name. -/
def Holds (s : Store) (user : UserId) (name : String) : Prop :=
  ∃ r ∈ s.roles, r.name = name ∧ ⟨user, r.id⟩ ∈ s.links

theorem holds_iff {user : UserId} {name : String} :
    s.Holds user name ↔ name ∈ (s.held user).map (·.name) := by
  simp only [Holds, List.mem_map, mem_held]
  exact exists_congr fun r => by tauto

/-- A role of the store is held if and only if its name is. -/
theorem holds_name_iff (hs : s.Coherent) {user : UserId} {r : Role} (hr : r ∈ s.roles) :
    s.Holds user r.name ↔ ⟨user, r.id⟩ ∈ s.links := by
  constructor
  · rintro ⟨r', hr', hname, hl⟩
    rwa [← hs.names r' hr' r hr hname]
  · exact fun hl => ⟨r, hr, rfl, hl⟩

theorem mem_linkedUsers {links : List Link} {user : UserId} :
    user ∈ linkedUsers links ↔ ∃ l ∈ links, l.user = user := by
  rw [linkedUsers, ← Table.mem_def, Table.mem_ofList, List.mem_map]

/-- Whoever has something to gain or to lose is among the users with a role. -/
theorem mem_syncChanges {c : UserChange} : c ∈ s.syncChanges sc ↔
    c = (s.known sc.roles).change c.user (s.held c.user) ∧ c.isEmpty = false := by
  rw [syncChanges, changesFor, List.mem_filter, List.mem_map, Bool.not_eq_true']
  refine and_congr_left fun hempty => ⟨?_, fun hc => ⟨c.user, ?_, hc.symm⟩⟩
  · rintro ⟨user, -, rfl⟩
    rfl
  · by_contra hnot
    have hheld : s.held c.user = [] := List.eq_nil_iff_forall_not_mem.2 fun r hr =>
      hnot (mem_linkedUsers.2 ⟨⟨c.user, r.id⟩, (mem_held.1 hr).2, rfl⟩)
    rw [hc, hheld, ← Bool.not_eq_true, KnownRoles.isEmpty_change_iff] at hempty
    exact hempty fun name => Iff.rfl

/-- The users for whom something changes come in ascending order. -/
theorem ascending_syncChanges : Ascending compare ((s.syncChanges sc).map (·.user)) := by
  have husers : ((linkedUsers s.links.rows).map fun user =>
      (s.known sc.roles).change user (s.held user)).map (·.user) = linkedUsers s.links.rows := by
    rw [List.map_map]
    exact List.map_id _
  have hall : Ascending compare (linkedUsers s.links.rows) := Table.ascending _
  rw [← husers] at hall
  exact hall.sublist (List.filter_sublist.map _)

/-- The identity that the plan has for a role of the scenario is that of the role. -/
theorem mem_gained_known (hs : s.Coherent) {ds : List RoleTemplate} {c : UserChange}
    (hadd : ∀ name ∈ c.add, ∃ p ∈ s.known ds, p.2.name = name) {r : Role} (hr : r ∈ s.roles) :
    r.id ∈ (s.known ds).gained c ↔ r.name ∈ c.add := by
  rw [KnownRoles.gained, List.mem_filterMap]
  constructor
  · rintro ⟨name, hname, hid⟩
    obtain ⟨p, hp, hpid⟩ := Option.map_eq_some_iff.1 hid
    have hpname : p.2.name = name := by simpa using List.find?_some hp
    have hprole := ((mem_known hs).1 (List.mem_of_find?_eq_some hp)).2.1
    rwa [← eq_of_id_eq hprole hr hpid, hpname]
  · intro hname
    refine ⟨r.name, hname, ?_⟩
    rw [KnownRoles.id?]
    cases hfind : (s.known ds).find? fun p => p.2.name == r.name with
    | none =>
      obtain ⟨p, hp, hpname⟩ := hadd r.name hname
      exact absurd (beq_iff_eq.2 hpname) (List.find?_eq_none.1 hfind p hp)
    | some p =>
      have hpname : p.2.name = r.name := by simpa using List.find?_some hfind
      have hprole := ((mem_known hs).1 (List.mem_of_find?_eq_some hfind)).2.1
      rw [Option.map_some, hs.names p.2 hprole r hr hpname]

theorem mem_lost (hs : s.Coherent) {c : UserChange} {r : Role} (hr : r ∈ s.roles) :
    r.id ∈ c.lost s.roles ↔ r.name ∈ c.remove := by
  rw [UserChange.lost, List.mem_filterMap]
  constructor
  · rintro ⟨name, hname, hid⟩
    obtain ⟨r', hr', hid'⟩ := Option.map_eq_some_iff.1 hid
    obtain ⟨hmem, rfl⟩ := hs.roleNamed?_eq_some_iff.1 hr'
    rwa [← eq_of_id_eq hmem hr hid']
  · intro hname
    exact ⟨r.name, hname,
      Option.map_eq_some_iff.2 ⟨r, hs.roleNamed?_eq_some_iff.2 ⟨hr, rfl⟩, rfl⟩⟩

/-- Whoever gains or loses a role is among the users for whom something changes. -/
theorem change_mem_syncChanges {user : UserId} {name : String}
    (h : name ∈ ((s.known sc.roles).change user (s.held user)).add ∨
      name ∈ ((s.known sc.roles).change user (s.held user)).remove) :
    (s.known sc.roles).change user (s.held user) ∈ s.syncChanges sc := by
  refine mem_syncChanges.2 ⟨rfl, ?_⟩
  rw [← Bool.not_eq_true, KnownRoles.isEmpty_change_iff]
  intro hsame
  rw [KnownRoles.mem_add_change, KnownRoles.mem_remove_change, hsame] at h
  tauto

/-- The roles given to a user are those gained. -/
theorem assign_mem_syncCalls_iff (hs : s.Coherent)
    (hthere : ∀ d ∈ sc.roles, ∃ r ∈ s.roles, r.name = d.name) {user : UserId} {r : Role}
    (hr : r ∈ s.roles) : .assign user r.id ∈ s.syncCalls sc ↔
      r.name ∈ ((s.known sc.roles).change user (s.held user)).add := by
  have hadd : ∀ name ∈ ((s.known sc.roles).change user (s.held user)).add,
      ∃ p ∈ s.known sc.roles, p.2.name = name := fun name hname => by
    obtain ⟨old, hold, htarget⟩ := List.mem_filterMap.1 (KnownRoles.mem_add_change.1 hname).1
    exact exists_role_of_target? hs hthere (mem_held.1 hold).1 htarget
  rw [← mem_gained_known hs hadd hr, syncCalls, List.mem_flatMap]
  constructor
  · rintro ⟨c, hc, hcall⟩
    obtain ⟨rfl, hid⟩ := KnownRoles.assign_mem_calls_iff.1 hcall
    rwa [← (mem_syncChanges.1 hc).1]
  · intro hid
    exact ⟨_, change_mem_syncChanges (.inl ((mem_gained_known hs hadd hr).1 hid)),
      KnownRoles.assign_mem_calls_iff.2 ⟨rfl, hid⟩⟩

/-- The roles taken from a user are those lost. -/
theorem revoke_mem_syncCalls_iff (hs : s.Coherent) {user : UserId} {r : Role} (hr : r ∈ s.roles) :
    .revoke user r.id ∈ s.syncCalls sc ↔
      r.name ∈ ((s.known sc.roles).change user (s.held user)).remove := by
  rw [← mem_lost hs hr, syncCalls, List.mem_flatMap]
  constructor
  · rintro ⟨c, hc, hcall⟩
    obtain ⟨rfl, hid⟩ := KnownRoles.revoke_mem_calls_iff.1 hcall
    rwa [← (mem_syncChanges.1 hc).1]
  · intro hid
    exact ⟨_, change_mem_syncChanges (.inr ((mem_lost hs hr).1 hid)),
      KnownRoles.revoke_mem_calls_iff.2 ⟨rfl, hid⟩⟩

/-- What is given to a user is not taken from the user. -/
theorem revoke_not_mem_syncCalls (hs : s.Coherent)
    (hthere : ∀ d ∈ sc.roles, ∃ r ∈ s.roles, r.name = d.name) {user : UserId} {id : RoleId}
    (h : .assign user id ∈ s.syncCalls sc) : .revoke user id ∉ s.syncCalls sc := by
  obtain ⟨r, hr, rfl⟩ := aboutLinks_syncCalls hs sc _ h
  rw [assign_mem_syncCalls_iff hs hthere hr, KnownRoles.mem_add_change] at h
  rw [revoke_mem_syncCalls_iff hs hr, KnownRoles.mem_remove_change]
  tauto

/-- Moving the users leaves everything but the links, and a user holds a role of the store exactly
if it is what one of the roles held before becomes. -/
theorem mem_links_syncCalls (hs : s.Coherent)
    (hthere : ∀ d ∈ sc.roles, ∃ r ∈ s.roles, r.name = d.name) :
    ∃ links, s.afterAll now (s.syncCalls sc) = { s with links := links } ∧
      ∀ user, ∀ r ∈ s.roles, ⟨user, r.id⟩ ∈ links ↔
        r.name ∈ (s.held user).filterMap (s.known sc.roles).target? := by
  obtain ⟨links, hlinks, hmem⟩ := afterAll_aboutLinks now (aboutLinks_syncCalls hs sc)
    fun _ _ => revoke_not_mem_syncCalls hs hthere
  refine ⟨links, hlinks, fun user r hr => ?_⟩
  rw [hmem, assign_mem_syncCalls_iff hs hthere hr, revoke_mem_syncCalls_iff hs hr,
    KnownRoles.mem_add_change, KnownRoles.mem_remove_change, ← holds_name_iff hs hr, holds_iff]
  tauto

/-- Afterwards a user holds the roles that those held before become. -/
theorem holds_syncCalls_iff (hs : s.Coherent)
    (hthere : ∀ d ∈ sc.roles, ∃ r ∈ s.roles, r.name = d.name) {user : UserId} {name : String} :
    (s.afterAll now (s.syncCalls sc)).Holds user name ↔
      name ∈ (s.held user).filterMap (s.known sc.roles).target? := by
  obtain ⟨links, hlinks, hmem⟩ := mem_links_syncCalls now hs hthere
  rw [hlinks]
  constructor
  · rintro ⟨r, hr, rfl, hl⟩
    exact (hmem user r hr).1 hl
  · intro hname
    obtain ⟨old, hold, htarget⟩ := List.mem_filterMap.1 hname
    obtain ⟨p, hp, rfl⟩ := exists_role_of_target? hs hthere (mem_held.1 hold).1 htarget
    have hrole : p.2 ∈ s.roles := ((mem_known hs).1 hp).2.1
    exact ⟨p.2, hrole, rfl, (hmem user p.2 hrole).2 hname⟩

/-- Moving the users leads from a reachable store to a reachable one. -/
theorem reachable_syncCalls (hs : s.Reachable) (sc : Scenario) :
    Store.Reachable (s.afterAll now (s.syncCalls sc)) :=
  hs.afterAll_of_proper now fun op hop => (aboutLinks_syncCalls hs.coherent sc op hop).proper

end Store

end Gatehouse
