import Gatehouse.Proofs.Store.Memory
import Gatehouse.Proofs.Store.Room
import Gatehouse.Proofs.Template.Run
import Mathlib.Algebra.Ring.Nat

/-!
# What applying templates leaves behind

After a template has been applied there is exactly one role with its name, with the flags of the
template and, whatever grants it had before, exactly the grants of its lines, as often as the lines
name them (`RoleTemplate.Makes`).  A role that was there keeps its identity.  Everything else is as
it was (`Store.Applied`).

A single template is followed through its calls: the role is settled (`Settled`), its grants are
removed, and a grant is stored for each line (`Refilled`).  Several templates with different
names come one after the other: none of them touches what another one made, so their effects add up
(`Applied.append`).  All of it takes a store whose next identities are new, which is why
the identities it takes are counted first.
-/

set_option autoImplicit false

namespace Gatehouse

/-! ## Lines -/

/-- What a line says: its grant allows, is in force and has no remarks. -/
def GrantLine.terms (l : GrantLine) : Terms where
  area := l.area
  item := l.item?
  itemId := l.instance?
  rule := .allow
  itemRule := none
  action := l.action
  extra := none
  active := true

/-- A line with an item for its instance becomes the grant it says. -/
theorem GrantLine.toTerms_draft {l : GrantLine} (h : l.instanceHasItem = true) (role : RoleId) :
    (l.draft role).toTerms = l.terms := by
  rw [instanceHasItem] at h
  rw [draft, terms]
  cases hitem : l.item? <;> cases hid : l.instance? <;> simp_all [Draft.new, Draft.onItem,
    Draft.onInstance]

theorem GrantLine.owner_draft (l : GrantLine) (role : RoleId) :
    (l.draft role).owner = .role role := by
  rw [draft]
  split <;> rfl

/-! ## The postcondition -/

/-- In the store `t` the role is what the template makes of the store `s`. -/
structure RoleTemplate.Makes (d : RoleTemplate) (s t : Store) (r : Role) : Prop where
  /-- The role is there, -/
  mem : r ∈ t.roles
  /-- it has the name of the template, -/
  name : r.name = d.name
  /-- no other role has this name, -/
  only : ∀ r' ∈ t.roles, r'.name = d.name → r' = r
  /-- its holders may log in if the template says so, -/
  canLogin : r.flags.canLogin = d.canLogin
  /-- they administer the site if the template says so, -/
  isAdmin : r.flags.isAdmin = d.isAdmin
  /-- they have private labels if they may log in, -/
  privateLabels : r.flags.privateLabels = d.canLogin
  /-- a role that was there before is still the same one, -/
  kept : ∀ old ∈ s.roles, old.name = d.name →
    r.id = old.id ∧ r.name = old.name ∧ r.publicProfileAt = old.publicProfileAt
  /-- and its grants are those of the lines. -/
  grants : ((t.grantsOfRole r.id).map (·.toTerms)).Perm (d.lines.map (·.terms))

/-- The store `t` is what applying the templates makes of the store `s`. -/
structure Store.Applied (s t : Store) (ds : List RoleTemplate) : Prop where
  /-- Each template has its role. -/
  made : ∀ d ∈ ds, ∃ r, d.Makes s t r
  /-- Roles with other names are the same as before. -/
  roles : ∀ r, (∀ d ∈ ds, d.name ≠ r.name) → (r ∈ t.roles ↔ r ∈ s.roles)
  /-- The grants of these roles are the same as before. -/
  grants : ∀ r ∈ s.roles, (∀ d ∈ ds, d.name ≠ r.name) →
    ∀ g, g.owner = .role r.id → (g ∈ t.grants ↔ g ∈ s.grants)
  /-- The grants of users are the same as before. -/
  users : ∀ g id, g.owner = .user id → (g ∈ t.grants ↔ g ∈ s.grants)
  /-- The same users hold the same roles as before. -/
  links : t.links = s.links

namespace Store.Applied

theorem nil (s : Store) : s.Applied s [] where
  made d hd := by cases hd
  roles r _ := Iff.rfl
  grants r _ _ g _ := Iff.rfl
  users g id _ := Iff.rfl
  links := rfl

/-- Templates with different names do not disturb each other. -/
theorem append {s t u : Store} {ds es : List RoleTemplate} (hd : s.Applied t ds)
    (he : t.Applied u es) (hne : ∀ d ∈ ds, ∀ e ∈ es, e.name ≠ d.name) :
    s.Applied u (ds ++ es) where
  made d hmem := by
    rcases List.mem_append.1 hmem with hmem | hmem
    -- What the first templates made is not touched by the later ones, which have other names.
    · obtain ⟨r, hr⟩ := hd.made d hmem
      have hother : ∀ e ∈ es, e.name ≠ r.name := fun e he' => hr.name ▸ hne d hmem e he'
      refine ⟨r, { hr with mem := (he.roles r hother).2 hr.mem, only := ?_, grants := ?_ }⟩
      · intro r' hr' hname
        have hother' : ∀ e ∈ es, e.name ≠ r'.name := fun e he' => hname ▸ hne d hmem e he'
        exact hr.only r' ((he.roles r' hother').1 hr') hname
      · rw [grantsOfRole_congr (he.grants r hr.mem hother)]
        exact hr.grants
    -- What the later templates make was still as before when they began.
    · obtain ⟨r, hr⟩ := he.made d hmem
      refine ⟨r, { hr with kept := fun old hold hname => ?_ }⟩
      exact hr.kept old ((hd.roles old fun d' hd' => hname ▸ (hne d' hd' d hmem).symm).2 hold) hname
  roles r hr := by
    rw [he.roles r fun e he' => hr e (List.mem_append_right _ he'),
      hd.roles r fun d hd' => hr d (List.mem_append_left _ hd')]
  grants r hr hother g hg := by
    have hds : ∀ d ∈ ds, d.name ≠ r.name := fun d hd' => hother d (List.mem_append_left _ hd')
    rw [he.grants r ((hd.roles r hds).2 hr) (fun e he' => hother e (List.mem_append_right _ he')) g
      hg, hd.grants r hr hds g hg]
  users g id hg := by rw [he.users g id hg, hd.users g id hg]
  links := he.links.trans hd.links

end Store.Applied

/-! ## The identities it takes -/

/-- The number of grants that applying the templates stores. -/
def lineCount (ds : List RoleTemplate) : Nat := (ds.map fun d => d.lines.length).sum

namespace Transaction

variable (now : Stamp)

theorem settleRole_spends (d : RoleTemplate) : ((memory now).settleRole d).Spends 1 0 := by
  refine .query_bind fun found => ?_
  cases found with
  | some old =>
    refine .mono (m := 0) (n := 0) ?_ (Nat.zero_le 1) (Nat.le_refl 0)
    exact .query_bind fun grants =>
      .bind_pure (.of_write (.setFlags old.id d.flags) trivial now fun _ => rfl) _
  | none =>
    exact .bind_pure (.of_write (.insertRole { name := d.name, flags := d.flags }) trivial now
      fun _ => rfl) _

theorem clearRole_spends (id : RoleId) : ((memory now).clearRole id).Spends 0 0 :=
  .of_write (.clearRole id) trivial now fun _ => rfl

theorem insertLine_spends (l : GrantLine) (role : RoleId) :
    ((memory now).insertGrant (l.draft role)).Spends 0 1 :=
  .of_write (.insertGrant (l.draft role)) (l.draft_made role) now fun _ => rfl

theorem insertLines_spends (role : RoleId) (ls : List GrantLine) :
    ((memory now).insertLines role ls).Spends 0 ls.length := by
  induction ls with
  | nil => exact .pure ()
  | cons l rest ih =>
    rw [insertLines, List.length_cons, Nat.add_comm]
    exact .bind (insertLine_spends now l role) fun _ => ih

theorem applyRole_spends (d : RoleTemplate) :
    ((memory now).applyRole d).Spends 1 d.lines.length := by
  rw [applyRole, ← Nat.zero_add d.lines.length]
  refine .bind (k := 0) (settleRole_spends now d) fun p => ?_
  rw [← Nat.zero_add d.lines.length]
  refine .bind (m := 0) (k := 0) (clearRole_spends now p.1.id) fun count => ?_
  exact .bind (l := 0) (insertLines_spends now p.1.id d.lines) fun _ =>
    .query_bind fun grants => .pure _

theorem applyRoles_spends (ds : List RoleTemplate) :
    ((memory now).applyRoles ds).Spends ds.length (lineCount ds) := by
  induction ds with
  | nil => exact .pure []
  | cons d rest ih =>
    rw [applyRoles, List.length_cons, Nat.add_comm, lineCount, List.map_cons, List.sum_cons]
    exact .bind (applyRole_spends now d) fun step => .bind_pure ih _

end Transaction

/-! ## A single template -/

/-- The store `u` is the store `s` with the role of a template created or set. -/
structure Settled (s u : Store) (d : RoleTemplate) (role : Role) : Prop where
  /-- The role has the name of the template. -/
  name : role.name = d.name
  /-- It has the flags of the template. -/
  flags : role.flags = d.flags
  /-- A role that was there is still the same one. -/
  kept : ∀ old ∈ s.roles, old.name = d.name →
    role.id = old.id ∧ role.publicProfileAt = old.publicProfileAt
  /-- It does not have the identity of another role. -/
  apart : ∀ r ∈ s.roles, r.name ≠ d.name → r.id ≠ role.id
  /-- It is written among the roles. -/
  roles : u.roles = s.roles.insert role
  /-- Nothing is done to links. -/
  links : u.links = s.links
  /-- Nothing is done to grants. -/
  grants : u.grants = s.grants

theorem Settled.mem_roles {s u : Store} {d : RoleTemplate} {role r : Role}
    (h : Settled s u d role) : r ∈ u.roles ↔ r = role ∨ r ∈ s.roles ∧ r.name ≠ d.name := by
  rw [h.roles, Store.mem_roles_insert]
  refine or_congr_right (and_congr_right fun hr => ⟨fun hid hname => ?_, h.apart r hr⟩)
  exact hid (h.kept r hr hname).1.symm

/-- Setting the flags of the role that has the name. -/
theorem Settled.of_old {s : Store} {d : RoleTemplate} {old : Role} (hs : s.Coherent)
    (hold : old ∈ s.roles) (hname : old.name = d.name) :
    Settled s (s.setRole { old with flags := d.flags }) d { old with flags := d.flags } := by
  refine ⟨hname, rfl, fun r hr hrname => ?_, fun r hr hrname hid => ?_, rfl, rfl, rfl⟩
  · rw [hs.names r hr old hold (hrname.trans hname.symm)]
    exact ⟨rfl, rfl⟩
  · exact hrname (Table.eq_of_mem hr hold (Store.byId_role_eq_iff.2 hid) ▸ hname)

/-- Creating a role with a name that no role has. -/
theorem Settled.of_new {s : Store} {d : RoleTemplate} {role : Role} (hs : s.Counted)
    (hnext : s.lastRole ≤ s.lastRole + 1) (hnone : ∀ r ∈ s.roles, r.name ≠ d.name)
    (hid : role.id = ⟨s.lastRole + 1⟩) (hname : role.name = d.name)
    (hflags : role.flags = d.flags) :
    Settled s { s with roles := s.roles.insert role, lastRole := s.lastRole + 1 } d role where
  name := hname
  flags := hflags
  kept r hr hrname := absurd hrname (hnone r hr)
  apart r hr _ := hid ▸ hs.role_ne_next hnext r hr
  roles := rfl
  links := rfl
  grants := rfl

theorem settled_of_run {now : Stamp} {s u : Store} {d : RoleTemplate} {p : Role × Snapshot}
    (hs : s.ReachableInRange) (hroom : s.Room 1 0)
    (h : ((Transaction.memory now).settleRole d).run s = (.ok p, u)) : Settled s u d p.1 := by
  rw [Transaction.settleRole, Action.run_bind_of_ok (Transaction.run_roleNamed_memory now s d.name)]
    at h
  cases hnamed : s.roleNamed? d.name with
  | some old =>
    have hold : old ∈ s.roles := List.mem_of_find?_eq_some hnamed
    have hname : old.name = d.name := by simpa using List.find?_some hnamed
    rw [hnamed] at h
    dsimp only at h
    rw [Action.run_bind_of_ok (Transaction.run_grantsOfRole_memory now s old.id),
      Action.run_bind_eq_ok_iff] at h
    obtain ⟨role, t, hset, hpure⟩ := h
    cases hpure
    obtain ⟨old', hold', rfl, rfl⟩ :=
      Store.setFlags_eq_ok_iff.1 (Action.run_attempt_eq_ok_iff.1 hset)
    rw [Store.role?_eq_some_iff.2 ⟨hold, rfl⟩, Option.some.injEq] at hold'
    subst hold'
    exact .of_old hs.coherent hold hname
  | none =>
    rw [hnamed] at h
    dsimp only at h
    rw [Action.run_bind_eq_ok_iff] at h
    obtain ⟨role, t, hinsert, hpure⟩ := h
    cases hpure
    obtain ⟨-, -, rfl, rfl⟩ :=
      Store.insertRole_eq_ok_iff.1 (Action.run_attempt_eq_ok_iff.1 hinsert)
    exact .of_new hs.counted (Store.Room.lastRole_le (m := 0) hroom)
      (Store.roleNamed?_eq_none_iff.1 hnamed) rfl rfl rfl

/-- Storing the grants of some lines adds one for each line and does nothing else. -/
theorem run_insertLines {now : Stamp} {role : RoleId} {ls : List GrantLine} {v w : Store}
    (hv : v.ReachableInRange) (hroom : v.Room 0 ls.length)
    (h : ((Transaction.memory now).insertLines role ls).run v = (.ok (), w)) :
    w.roles = v.roles ∧ w.links = v.links ∧ ∃ new : List Grant,
      new.map (·.toTerms) = ls.map (fun l => (l.draft role).toTerms) ∧
      (∀ g ∈ new, g.owner = .role role) ∧ w.grants.rows.Perm (new ++ v.grants.rows) := by
  -- The grants stored so far are old ones when the next line is looked at.
  induction ls generalizing v with
  | nil =>
    cases h
    exact ⟨rfl, rfl, [], rfl, (fun g hg => by cases hg), .refl _⟩
  | cons l rest ih =>
    rw [Transaction.insertLines, Action.run_bind_eq_ok_iff] at h
    obtain ⟨id, t, hinsert, hrest⟩ := h
    rw [List.length_cons, Nat.add_comm] at hroom
    obtain ⟨ht, htroom⟩ :=
      (Transaction.insertLine_spends now l role).of_run (k := 0) hv hroom hinsert
    obtain ⟨-, rfl, rfl⟩ := Store.insertGrant_eq_ok_iff.1 (Action.run_attempt_eq_ok_iff.1 hinsert)
    obtain ⟨hroles, hlinks, new, hterms, howner, hperm⟩ := ih ht htroom hrest
    have hnext : v.lastGrant ≤ v.lastGrant + 1 := hroom.lastGrant_le
    have hnew : ∀ g ∈ v.grants, Grant.byId ((l.draft role).store ⟨v.lastGrant + 1⟩) g ≠ .eq :=
      fun g hg heq => hv.counted.grant_ne_next hnext g hg (Store.byId_grant_eq_iff.1 heq).symm
    refine ⟨hroles, hlinks, (l.draft role).store ⟨v.lastGrant + 1⟩ :: new, ?_, ?_, ?_⟩
    · rw [List.map_cons, List.map_cons, hterms]
      rfl
    · intro g hg
      rcases List.mem_cons.1 hg with rfl | hg
      · exact l.owner_draft role
      · exact howner g hg
    · exact hperm.trans (((Table.rows_insert_perm hnew).append_left new).trans List.perm_middle)

/-- The store `w` is the store `u` with the grants of a role replaced by those of some lines. -/
structure Refilled (u w : Store) (role : RoleId) (ls : List GrantLine) : Prop where
  /-- Nothing is done to roles. -/
  roles : w.roles = u.roles
  /-- Nothing is done to links. -/
  links : w.links = u.links
  /-- Nothing is done to grants of others. -/
  others : ∀ g, g.owner ≠ .role role → (g ∈ w.grants ↔ g ∈ u.grants)
  /-- The role has just the grants of the lines. -/
  grants : ((w.grantsOfRole role).map (·.toTerms)).Perm (ls.map fun l => (l.draft role).toTerms)

/-- A role that was cleared before the grants of some lines are stored is refilled with them. -/
theorem refilled_of_run {now : Stamp} {role : RoleId} {ls : List GrantLine} {u w : Store}
    (hu : u.ReachableInRange) (hroom : u.Room 0 ls.length)
    (h : ((Transaction.memory now).insertLines role ls).run (u.clearRole role).2 = (.ok (), w)) :
    Refilled u w role ls := by
  have hclear := (Transaction.clearRole_spends now role).of_run (k := 0) (l := ls.length) hu
    (by simpa using hroom) (Transaction.run_clearRole_memory now u role)
  obtain ⟨hroles, hlinks, new, hterms, howner, hperm⟩ := run_insertLines hclear.1 hclear.2 h
  have hcleared : ∀ g, g ∈ (u.clearRole role).2.grants ↔ g ∈ u.grants ∧ g.owner ≠ .role role := by
    intro g
    rw [Store.clearRole, Store.deleteGrants, Table.mem_filter, Bool.not_eq_true',
      ← Bool.not_eq_true, Store.owner_role?_beq_iff]
  refine ⟨hroles, hlinks, fun g hg => ?_, ?_⟩
  -- The new grants are owned by the role and nobody else.
  · rw [Table.mem_def, hperm.mem_iff, List.mem_append, ← Table.mem_def, hcleared]
    exact ⟨fun hmem => hmem.elim (fun hnew => absurd (howner g hnew) hg) And.left,
      fun hmem => .inr ⟨hmem, hg⟩⟩
  · have hown : (new ++ (u.clearRole role).2.grants.rows).filter
        (fun g => g.owner.role? == some role) = new := by
      rw [List.filter_append, List.filter_eq_self.2 fun g hg =>
        Store.owner_role?_beq_iff.2 (howner g hg), List.filter_eq_nil_iff.2 fun g hg hrole =>
          ((hcleared g).1 hg).2 (Store.owner_role?_beq_iff.1 hrole), List.append_nil]
    have hlist : (w.grantsOfRole role).Perm new :=
      (sortBy_perm _ _).trans (hown ▸ hperm.filter _)
    exact hterms ▸ hlist.map _

/-- Once the role is settled and its grants are refilled, the template is applied. -/
theorem Settled.applied {s u t : Store} {d : RoleTemplate} {role : Role} (h : Settled s u d role)
    (ht : Refilled u t role.id d.lines) (hlines : ∀ l ∈ d.lines, l.instanceHasItem = true) :
    s.Applied t [d] := by
  have hothers : ∀ g, g.owner ≠ .role role.id → (g ∈ t.grants ↔ g ∈ s.grants) :=
    h.grants ▸ ht.others
  have hterms : d.lines.map (fun l => (l.draft role.id).toTerms) = d.lines.map (·.terms) :=
    List.map_congr_left fun l hl => GrantLine.toTerms_draft (hlines l hl) role.id
  have hmem : ∀ r, r ∈ t.roles ↔ r = role ∨ r ∈ s.roles ∧ r.name ≠ d.name := fun r => by
    rw [ht.roles, h.mem_roles]
  refine ⟨fun d' hd' => ?_, fun r hr => ?_, fun r hr hother g hg => ?_, fun g id hg => ?_, ?_⟩
  · obtain rfl := List.mem_singleton.1 hd'
    refine ⟨role, (hmem role).2 (.inl rfl), h.name, fun r hr hname => ?_, ?_, ?_, ?_,
      fun old hold hname => ?_, hterms ▸ ht.grants⟩
    · exact ((hmem r).1 hr).resolve_right fun hother => hother.2 hname
    · rw [h.flags]; rfl
    · rw [h.flags]; rfl
    · rw [h.flags]; rfl
    · obtain ⟨hid, hprofile⟩ := h.kept old hold hname
      exact ⟨hid, h.name.trans hname.symm, hprofile⟩
  · have hname : d.name ≠ r.name := hr d (List.mem_singleton.2 rfl)
    rw [hmem]
    refine ⟨fun hr' => hr'.elim (fun hrole => ?_) And.left, fun hr' => .inr ⟨hr', hname.symm⟩⟩
    exact absurd (hrole ▸ h.name).symm hname
  · have hname : d.name ≠ r.name := hother d (List.mem_singleton.2 rfl)
    refine hothers g fun howner => ?_
    exact h.apart r hr hname.symm (Owner.role.inj (hg.symm.trans howner))
  · refine hothers g fun howner => ?_
    cases hg.symm.trans howner
  · exact ht.links.trans h.links

/-- A template that goes through has its role settled and refilled, and the step tells the role and
its grants from before and after. -/
theorem settled_refilled_of_run {now : Stamp} {s t : Store} {d : RoleTemplate} {step : RoleStep}
    (hs : s.ReachableInRange) (hroom : s.Room 1 d.lines.length)
    (h : ((Transaction.memory now).applyRole d).run s = (.ok step, t)) :
    ∃ role before u, ((Transaction.memory now).settleRole d).run s = (.ok (role, before), u) ∧
      Settled s u d role ∧ Refilled u t role.id d.lines ∧
      step = ⟨⟨d.name, role.id, if before.role.isNone then .created else .updated,
        before.grants.length, (t.grantsOfRole role.id).length⟩, before,
        ⟨d.name, some role, t.grantsOfRole role.id⟩⟩ := by
  rw [Transaction.applyRole, Action.run_bind_eq_ok_iff] at h
  obtain ⟨⟨role, before⟩, u, hsettle, h⟩ := h
  have hsettled := settled_of_run hs (hroom.mono (Nat.le_refl 1) (Nat.zero_le _)) hsettle
  obtain ⟨hu, huroom⟩ := (Transaction.settleRole_spends now d).of_run (k := 0)
    (l := d.lines.length) hs (by simpa using hroom) hsettle
  rw [Action.run_bind_of_ok (Transaction.run_clearRole_memory now u role.id),
    Action.run_bind_eq_ok_iff] at h
  obtain ⟨⟨⟩, w, hinsert, h⟩ := h
  rw [Action.run_bind_of_ok (Transaction.run_grantsOfRole_memory now w role.id)] at h
  cases h
  exact ⟨role, before, u, hsettle, hsettled, refilled_of_run hu huroom hinsert, rfl⟩

/-- Applying a template makes its role and leaves everything else as it is. -/
theorem applied_of_run {now : Stamp} {s t : Store} {d : RoleTemplate} {step : RoleStep}
    (hs : s.ReachableInRange) (hroom : s.Room 1 d.lines.length)
    (hlines : ∀ l ∈ d.lines, l.instanceHasItem = true)
    (h : ((Transaction.memory now).applyRole d).run s = (.ok step, t)) : s.Applied t [d] := by
  obtain ⟨role, before, u, -, hsettled, hrefilled, -⟩ := settled_refilled_of_run hs hroom h
  exact hsettled.applied hrefilled hlines

/-! ## A scenario -/

/-- Room for all templates is room for the first one. -/
theorem Store.Room.first {s : Store} {d : RoleTemplate} {rest : List RoleTemplate}
    (h : s.Room (d :: rest).length (lineCount (d :: rest))) : s.Room 1 d.lines.length := by
  rw [List.length_cons, Nat.add_comm, lineCount, List.map_cons, List.sum_cons] at h
  exact h.mono (Nat.le_add_right _ _) (Nat.le_add_right _ _)

/-- The first of several templates with different names makes its role, and there is room for the
others, which are about other roles. -/
theorem first_applied_of_run {now : Stamp} {s u : Store} {d : RoleTemplate}
    {rest : List RoleTemplate} {step : RoleStep} (hs : s.ReachableInRange)
    (hroom : s.Room (d :: rest).length (lineCount (d :: rest)))
    (hlines : ∀ l ∈ d.lines, l.instanceHasItem = true)
    (hnames : ((d :: rest).map (·.name)).Nodup)
    (h : ((Transaction.memory now).applyRole d).run s = (.ok step, u)) :
    s.Applied u [d] ∧ u.ReachableInRange ∧ u.Room rest.length (lineCount rest) ∧
      ∀ e ∈ rest, e.name ≠ d.name := by
  have happlied := applied_of_run hs hroom.first hlines h
  rw [List.length_cons, Nat.add_comm, lineCount, List.map_cons, List.sum_cons] at hroom
  obtain ⟨hu, huroom⟩ := (Transaction.applyRole_spends now d).of_run hs hroom h
  refine ⟨happlied, hu, huroom, fun e he heq => ?_⟩
  rw [List.map_cons, List.nodup_cons] at hnames
  exact hnames.1 (heq ▸ List.mem_map_of_mem he)

/-- Applying templates with different names makes their roles and leaves everything else as it
is. -/
theorem applied_of_run_all {now : Stamp} {s t : Store} {ds : List RoleTemplate}
    {steps : List RoleStep} (hs : s.ReachableInRange) (hroom : s.Room ds.length (lineCount ds))
    (hlines : ∀ d ∈ ds, ∀ l ∈ d.lines, l.instanceHasItem = true)
    (hnames : (ds.map (·.name)).Nodup)
    (h : ((Transaction.memory now).applyRoles ds).run s = (.ok steps, t)) : s.Applied t ds := by
  -- On the templates; the store after the first one has room for what the others take.
  induction ds generalizing s steps with
  | nil =>
    cases h
    exact .nil _
  | cons d rest ih =>
    obtain ⟨step, others, u, hstep, hrest, rfl⟩ := Transaction.run_applyRoles_cons_eq_ok_iff.1 h
    obtain ⟨hd, hu, huroom, hne⟩ :=
      first_applied_of_run hs hroom (hlines d List.mem_cons_self) hnames hstep
    have hds : u.Applied t rest := ih hu huroom
      (fun e he => hlines e (List.mem_cons_of_mem d he)) (List.nodup_cons.1 hnames).2 hrest
    refine hd.append hds fun d' hd' e he => ?_
    rw [List.mem_singleton.1 hd']
    exact hne e he

/-- A call that succeeds on the store found the scenario in order and went through the templates
planned, and the store is where that led to. -/
theorem ApplyCall.run_action_memory_eq_ok {now : Stamp} {l : Library} {run : String}
    {call : ApplyCall} {sc : Scenario} {ds : List RoleTemplate} {s t : Store} {report : ApplyReport}
    (hplan : call.plan l = .ok (sc, ds))
    (h : (call.action (.memory now) l run).run s = (.ok report, t)) :
    sc.check = .ok () ∧ ∃ steps, report = .ofSteps run sc.name steps ∧
      ((Transaction.memory now).applyRoles ds).run s = (.ok steps, t) := by
  obtain ⟨sc', ds', hplan', hcheck, opened, s', steps, done, hbegin, hrun, hcommit, hreport⟩ :=
    run_action_eq_ok h
  rw [hplan] at hplan'
  cases hplan'
  rw [Backend.run_begin_memory] at hbegin
  cases hbegin
  rw [Backend.run_commit_memory] at hcommit
  cases hcommit
  exact ⟨hcheck, steps, hreport, hrun⟩

/-- A call goes through if its scenario is in order and its templates go through. -/
theorem ApplyCall.run_action_memory_of_ok {now : Stamp} {l : Library} {run : String}
    {call : ApplyCall} {sc : Scenario} {ds : List RoleTemplate} {s t : Store}
    {steps : List RoleStep} (hplan : call.plan l = .ok (sc, ds)) (hcheck : sc.check = .ok ())
    (hrun : ((Transaction.memory now).applyRoles ds).run s = (.ok steps, t)) :
    (call.action (.memory now) l run).run s = (.ok (.ofSteps run sc.name steps), t) := by
  have hwithin : ((Backend.memory now).within.applyRoles ds).run s = (.ok steps, t) := hrun
  simp only [run_action, hplan, hcheck, Backend.run_begin_memory, hwithin,
    Backend.run_commit_memory]

/-- A scenario is applied exactly when it is in order and its templates can be gone through, and
then the store is where that leads to. -/
theorem run_applyScenario_memory_eq_ok_iff {now : Stamp} {run : String} {sc : Scenario}
    {s t : Store} {report : ApplyReport} :
    ((Backend.memory now).applyScenario run sc).run s = (.ok report, t) ↔
      sc.check = .ok () ∧ ∃ steps, report = .ofSteps run sc.name steps ∧
        ((Transaction.memory now).applyRoles sc.roles).run s = (.ok steps, t) := by
  show ((ApplyCall.applyScenario sc).action (.memory now) .empty run).run s = _ ↔ _
  constructor
  · exact ApplyCall.run_action_memory_eq_ok rfl
  · rintro ⟨hcheck, steps, rfl, hrun⟩
    exact ApplyCall.run_action_memory_of_ok rfl hcheck hrun

/-- A scenario that is applied to a store with room for the new identities leaves a store that is
reachable as well, in which its roles are what their templates say. -/
theorem applied_of_applyScenario {now : Stamp} {run : String} {sc : Scenario} {s t : Store}
    {report : ApplyReport} (hs : s.ReachableInRange)
    (hroom : s.Room sc.roles.length (lineCount sc.roles))
    (h : ((Backend.memory now).applyScenario run sc).run s = (.ok report, t)) :
    t.ReachableInRange ∧ s.Applied t sc.roles := by
  obtain ⟨hcheck, steps, -, hrun⟩ := run_applyScenario_memory_eq_ok_iff.1 h
  obtain ⟨-, hroles, hnames⟩ := Scenario.check_eq_ok_iff.1 hcheck
  have hreach := ((Transaction.applyRoles_spends now sc.roles).of_run (k := 0) (l := 0) hs hroom
    hrun).1
  exact ⟨hreach,
    applied_of_run_all hs hroom (fun d hd => (hroles d hd).instanceHasItem) hnames hrun⟩

/-- **What applying a scenario leaves behind.**  If a scenario, or one of its roles, is applied to a
store with room for the new identities, then each role applied is what its template says, a role
that was there is still the same one, and nothing else has changed. -/
theorem call_leaves_applied {now : Stamp} {s : Store} (hs : s.ReachableInRange) (l : Library)
    (run : String) (call : ApplyCall) {sc : Scenario} {ds : List RoleTemplate}
    (hplan : call.plan l = .ok (sc, ds)) (hroom : s.Room ds.length (lineCount ds))
    {report : ApplyReport} {t : Store}
    (h : (call.action (.memory now) l run).run s = (.ok report, t)) : s.Applied t ds := by
  obtain ⟨hcheck, steps, -, hrun⟩ := ApplyCall.run_action_memory_eq_ok hplan h
  obtain ⟨-, hroles, hnames⟩ := Scenario.check_eq_ok_iff.1 hcheck
  have hsub : ds.Sublist sc.roles := ApplyCall.sublist_of_plan hplan
  refine applied_of_run_all hs hroom (fun d hd line hline => ?_)
    ((hsub.map (·.name)).nodup hnames) hrun
  exact (GrantLine.flaws_eq_nil_iff.1 ((hroles d (hsub.subset hd)).1 line hline)).2

/-- A scenario for a role that the teams have and for one that they do not have, with a line given
twice and with every spelling of "not narrowed". -/
def press : Scenario where
  name := "press"
  roles :=
    [{ name := "writers", canLogin := true,
       lines :=
         [{ area := "news", action := "see" }, { area := "news", item := some "", action := "see" },
           { area := "news", item := some "draft", action := "post", itemId := some 0 },
           { area := "news", item := some "draft", action := "post", itemId := some 5 }] },
      { name := "printers", isAdmin := true, lines := [{ area := "paper", action := "load" }] }]

theorem room_press : teams.Room press.roles.length (lineCount press.roles) := by
  constructor <;> decide

/-- The scenario for the press can be applied to the teams. -/
theorem exists_run_press : ∃ report t,
    ((Backend.memory newYear).applyScenario "1" press).run teams = (.ok report, t) :=
  Action.exists_run_eq_ok (by decide +kernel)

/-- Applying the scenario for the press to the teams succeeds, and so does resetting one of its
roles, and both leave behind what they should. -/
theorem call_leaves_applied_press :
    (∃ report t, ((ApplyCall.applyScenario press).action (.memory newYear) .empty "1").run teams =
      (.ok report, t) ∧ teams.Applied t press.roles) ∧
    ∃ report t, ((ApplyCall.resetRole "press" "printers").action (.memory newYear)
      ⟨.ofList [press]⟩ "2").run teams = (.ok report, t) ∧
        teams.Applied t (press.roles.drop 1) := by
  constructor
  · obtain ⟨report, t, hrun⟩ := Action.exists_run_eq_ok
      (x := (ApplyCall.applyScenario press).action (.memory newYear) .empty "1") (s := teams)
      (by decide +kernel)
    have hroom : teams.Room 2 5 := by constructor <;> decide
    exact ⟨report, t, hrun,
      call_leaves_applied reachableInRange_teams .empty "1" (.applyScenario press) rfl hroom hrun⟩
  · obtain ⟨report, t, hrun⟩ := Action.exists_run_eq_ok
      (x := (ApplyCall.resetRole "press" "printers").action (.memory newYear) ⟨.ofList [press]⟩ "2")
      (s := teams) (by decide +kernel)
    have hroom : teams.Room 1 1 := by constructor <;> decide
    exact ⟨report, t, hrun, call_leaves_applied reachableInRange_teams ⟨.ofList [press]⟩ "2"
      (.resetRole "press" "printers") rfl hroom hrun⟩

end Gatehouse
