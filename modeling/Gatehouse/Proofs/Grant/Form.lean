import Gatehouse.Grant.Management
import Gatehouse.Proofs.Store.Absence
import Gatehouse.Proofs.Store.Naming
import Gatehouse.Proofs.Store.Room
import Mathlib.Order.WellFounded

/-!
# Storing what a form asks for

Five things about a form are checked one after the other (`FormCheck`): that it names one owner, a
section and an action that show, no instance without an item, and no role that is not there.  A
form that passes all of them is in order.  It is stored under a new identity, and what is found
there says what the form says (`GrantForm.StoredAs`).  Any other form is refused with the error of
the first check that it fails (`GrantForm.FailsFirst`), and leaves the store as it was.

The checks but the last are those of `GrantForm.draft`, which `GrantForm.draft_eq` lays out as one
chain of conditions; the last one is made by the store.  Every form is in order or fails a check
first (`GrantForm.exists_failsFirst`), so it is enough to follow the two kinds of form, each through
its draft and then into the store.
-/

set_option autoImplicit false

namespace Gatehouse

/-! ## Passing and failing -/

/-- What is checked in a form. -/
inductive FormCheck where
  /-- Who is to hold the grant. -/
  | owner
  /-- The section. -/
  | area
  /-- The action. -/
  | action
  /-- How far the grant is narrowed. -/
  | narrowing
  /-- Whether the role that is to hold it is there. -/
  | role
deriving DecidableEq, Repr

/-- The place of a check in the order in which they are made. -/
def FormCheck.place : FormCheck → Nat
  | .owner => 0
  | .area => 1
  | .action => 2
  | .narrowing => 3
  | .role => 4

namespace GrantForm

variable {f : GrantForm} {s : Store} {c : FormCheck} {e : Error}

/-- What a form must be like to pass a check. -/
def Passes (f : GrantForm) (s : Store) : FormCheck → Prop
  | .owner => f.role.isSome = !f.user.isSome
  | .area => Shows f.area
  | .action => Shows f.action
  | .narrowing => f.itemId.isSome = true → f.item.isSome = true
  | .role => ∀ id, f.role = some id → ∃ r ∈ s.roles, r.id = id

/-- A form that passes all checks. -/
def InOrder (f : GrantForm) (s : Store) : Prop := ∀ c, f.Passes s c

/-- A check fails with an error. -/
inductive Fails (f : GrantForm) (s : Store) : FormCheck → Error → Prop
  /-- Both a role and a user are to hold the grant. -/
  | twoOwners {role : RoleId} {user : UserId} (hrole : f.role = some role)
      (huser : f.user = some user) : Fails f s .owner (.validation (.twoOwners role user))
  /-- Neither is to hold it. -/
  | noOwner (hrole : f.role = none) (huser : f.user = none) :
      Fails f s .owner (.validation .noOwner)
  /-- The section does not show. -/
  | blankArea (h : ¬Shows f.area) : Fails f s .area (.validation .blankArea)
  /-- The action does not show. -/
  | blankAction (h : ¬Shows f.action) : Fails f s .action (.validation .blankAction)
  /-- There is an instance but no item. -/
  | instanceWithoutItem {id : Int32} (hitem : f.item = none) (hid : f.itemId = some id) :
      Fails f s .narrowing (.validation (.instanceWithoutItem id))
  /-- The role that is to hold the grant is not there. -/
  | roleMissing {id : RoleId} (hrole : f.role = some id) (h : ∀ r ∈ s.roles, r.id ≠ id) :
      Fails f s .role (.notFound (.role id))

/-- The first check that the form does not pass fails with the error. -/
def FailsFirst (f : GrantForm) (s : Store) (e : Error) : Prop :=
  ∃ c, f.Fails s c e ∧ ∀ c', c'.place < c.place → f.Passes s c'

/-- A check that the form does not pass fails with some error. -/
theorem exists_fails (h : ¬f.Passes s c) : ∃ e, f.Fails s c e := by
  cases c with
  | owner =>
    cases hrole : f.role <;> cases huser : f.user
    · exact ⟨_, .noOwner hrole huser⟩
    · simp [Passes, hrole, huser] at h
    · simp [Passes, hrole, huser] at h
    · exact ⟨_, .twoOwners hrole huser⟩
  | area => exact ⟨_, .blankArea h⟩
  | action => exact ⟨_, .blankAction h⟩
  | narrowing =>
    obtain ⟨hid, hitem⟩ : f.itemId.isSome = true ∧ f.item = none := by simpa [Passes] using h
    obtain ⟨id, hid⟩ := Option.isSome_iff_exists.1 hid
    exact ⟨_, .instanceWithoutItem hitem hid⟩
  | role =>
    obtain ⟨id, hrole, hnone⟩ : ∃ id, f.role = some id ∧ ∀ r ∈ s.roles, r.id ≠ id := by
      simpa [Passes] using h
    exact ⟨_, .roleMissing hrole hnone⟩

/-- A form that is not in order fails one of the checks first. -/
theorem exists_failsFirst (h : ¬f.InOrder s) : ∃ e, f.FailsFirst s e := by
  obtain ⟨c, hc, hfirst⟩ := (measure FormCheck.place).wf.has_min {c | ¬f.Passes s c}
    (not_forall.1 h)
  obtain ⟨e, hfails⟩ := exists_fails hc
  exact ⟨e, c, hfails, fun c' hlt => not_not.1 fun hc' => hfirst c' hc' hlt⟩

/-! ## The draft of a form -/

/-- The draft of a form says what the form says, unless there is none. -/
theorem draft_eq (f : GrantForm) :
    f.draft = match Owner.ofFields f.role f.user with
      | .error e => .error e
      | .ok owner =>
        if allBlank f.area then .error (.validation .blankArea)
        else if allBlank f.action then .error (.validation .blankAction)
        else match f.item, f.itemId with
          | none, some id => .error (.validation (.instanceWithoutItem id))
          | _, _ => .ok ⟨f.toTerms, owner⟩ := by
  obtain ⟨⟨area, item, itemId, rule, itemRule, action, extra, active⟩, role, user⟩ := f
  rw [draft]
  dsimp only
  cases Owner.ofFields role user with
  | error e => rfl
  | ok owner =>
    by_cases harea : allBlank area = true
    · simp only [harea, if_true]
      rfl
    · by_cases haction : allBlank action = true
      · simp only [harea, haction, if_true]
        rfl
      · simp only [harea, haction]
        cases item <;> cases itemId <;> cases itemRule <;> cases extra <;> rfl

/-- Fields that name one owner are read as this owner. -/
theorem exists_ofFields (h : f.Passes s .owner) :
    ∃ owner, Owner.ofFields f.role f.user = .ok owner ∧ owner.role? = f.role ∧
      owner.user? = f.user := by
  cases hrole : f.role <;> cases huser : f.user
  · simp [Passes, hrole, huser] at h
  · exact ⟨_, rfl, rfl, rfl⟩
  · exact ⟨_, rfl, rfl, rfl⟩
  · simp [Passes, hrole, huser] at h

/-- A form that fails a check other than the last one first has no draft. -/
theorem draft_of_fails (hc : c ≠ .role) (h : f.Fails s c e)
    (hbefore : ∀ c', c'.place < c.place → f.Passes s c') : f.draft = .error e := by
  rw [draft_eq]
  cases h with
  | twoOwners hrole huser => rw [hrole, huser]; rfl
  | noOwner hrole huser => rw [hrole, huser]; rfl
  | blankArea h =>
    obtain ⟨owner, howner, -⟩ := exists_ofFields (hbefore .owner (by decide))
    simp [howner, shows_iff.not.1 h]
  | blankAction h =>
    obtain ⟨owner, howner, -⟩ := exists_ofFields (hbefore .owner (by decide))
    have harea := shows_iff.1 (hbefore .area (by decide))
    simp [howner, harea, shows_iff.not.1 h]
  | instanceWithoutItem hitem hid =>
    obtain ⟨owner, howner, -⟩ := exists_ofFields (hbefore .owner (by decide))
    have harea := shows_iff.1 (hbefore .area (by decide))
    have haction := shows_iff.1 (hbefore .action (by decide))
    simp [howner, harea, haction, hitem, hid]
  | roleMissing => exact absurd rfl hc

/-- The draft of a form that passes all checks before the last one. -/
theorem exists_draft (h : ∀ c, c.place < FormCheck.role.place → f.Passes s c) :
    ∃ owner : Owner, owner.role? = f.role ∧ owner.user? = f.user ∧
      f.draft = .ok ⟨f.toTerms, owner⟩ := by
  obtain ⟨owner, howner, hrole, huser⟩ := exists_ofFields (h .owner (by decide))
  have harea := shows_iff.1 (h .area (by decide))
  have haction := shows_iff.1 (h .action (by decide))
  have hnarrowing : f.itemId.isSome = true → f.item.isSome = true := h .narrowing (by decide)
  refine ⟨owner, hrole, huser, ?_⟩
  rw [draft_eq, howner]
  dsimp only
  rw [harea, haction]
  cases hitem : f.item <;> cases hid : f.itemId <;> simp_all

end GrantForm

/-! ## What is stored -/

/-- A stored grant is found. -/
theorem Backend.run_findGrant_memory (now : Stamp) {s : Store} {g : Grant} (h : g ∈ s.grants) :
    ((memory now).findGrant g.id).run s = (.ok g, s) := by
  have hfound : ((memory now).grant g.id).run s = (.ok (some g), s) :=
    Action.run_query_of_eq (Store.grant?_eq_some_iff.2 ⟨h, rfl⟩)
  rw [findGrant, Action.run_bind_of_ok hfound]
  exact Action.run_require_eq_ok_iff.2 ⟨rfl, rfl⟩

namespace GrantForm

variable {f : GrantForm} {s : Store} {e : Error} (now : Stamp)

/-- The grant of a form is stored under an identity, and nothing else has changed. -/
structure StoredAs (f : GrantForm) (s : Store) (id : GrantId) (t : Store) : Prop where
  /-- No grant had the identity. -/
  new : ∀ g ∈ s.grants, g.id ≠ id
  /-- The grant that is found under it, at any time, has the owner that the form names and says what
  the form says. -/
  found : ∃ g, (∀ now, ((Backend.memory now).findGrant id).run t = (.ok g, t)) ∧ g.id = id ∧
    g.owner.role? = f.role ∧ g.owner.user? = f.user ∧ g.toTerms = f.toTerms
  /-- The other grants are as they were, -/
  others : ∀ g, g.id ≠ id → (g ∈ t.grants ↔ g ∈ s.grants)
  /-- and so is everything but the grants and the last identity given to one. -/
  rest : t = { s with grants := t.grants, lastGrant := id.value }

/-- With a draft, storing what a form asks for is storing the draft. -/
theorem run_addGrant_of_draft {d : Draft} (h : f.draft = .ok d) :
    ((Backend.memory now).addGrant f).run s = ((Backend.memory now).createGrant d).run s := by
  rw [Backend.addGrant, h]
  rfl

/-- A form in order is stored under the next identity. -/
theorem InOrder.run_addGrant (h : f.InOrder s) (hnext : ∀ g ∈ s.grants, g.id ≠ ⟨s.lastGrant + 1⟩) :
    ∃ id t, ((Backend.memory now).addGrant f).run s = (.ok id, t) ∧ f.StoredAs s id t := by
  obtain ⟨owner, hrole, huser, hdraft⟩ := exists_draft fun c _ => h c
  have hthere : ∀ role, owner = .role role → ∃ r ∈ s.roles, r.id = role := by
    rintro role rfl
    exact h .role role hrole.symm
  let g : Grant := ⟨f.toTerms, ⟨s.lastGrant + 1⟩, owner⟩
  refine ⟨g.id, { s with grants := s.grants.insert g, lastGrant := s.lastGrant + 1 }, ?_, hnext,
    ⟨g, fun later => ?_, rfl, hrole, huser, rfl⟩, fun g' hid => ?_, rfl⟩
  · rw [run_addGrant_of_draft now hdraft]
    exact Action.run_attempt_eq_ok_iff.2 (Store.insertGrant_eq_ok_iff.2 ⟨hthere, rfl, rfl⟩)
  · exact Backend.run_findGrant_memory later (Store.mem_grants_insert.2 (.inl rfl))
  · rw [Store.mem_grants_insert]
    constructor
    · rintro (rfl | ⟨hold, -⟩)
      · exact absurd rfl hid
      · exact hold
    · exact fun hold => .inr ⟨hold, hid⟩

/-- A form that fails a check is refused with the error of the first one, and nothing changes. -/
theorem FailsFirst.run_addGrant (h : f.FailsFirst s e) :
    ((Backend.memory now).addGrant f).run s = (.error e, s) := by
  obtain ⟨c, hfails, hbefore⟩ := h
  by_cases hc : c = .role
  · subst hc
    obtain ⟨owner, howner, -, hdraft⟩ := exists_draft hbefore
    rw [run_addGrant_of_draft now hdraft]
    cases hfails with
    | roleMissing hrole hnone =>
      cases owner with
      | user => cases howner.trans hrole
      | role =>
        cases howner.trans hrole
        exact Action.run_attempt_of_error <|
          Store.insertGrant_of_role_none rfl (Store.role?_eq_none_iff.2 hnone)
  · rw [Backend.addGrant, draft_of_fails hc hfails hbefore]
    rfl

end GrantForm

/-- **A form in order is stored as it says, and any other one is refused for the first check that it
fails.** -/
theorem forms_are_stored_exactly (now : Stamp) {s : Store} (hs : s.ReachableInRange)
    (hroom : s.Room 0 1) (f : GrantForm) :
    ((((Backend.memory now).addGrant f).run s).1.isOk = true ↔ f.InOrder s) ∧
    (∀ id t, ((Backend.memory now).addGrant f).run s = (.ok id, t) → f.StoredAs s id t) ∧
    ∀ e t, ((Backend.memory now).addGrant f).run s = (.error e, t) ↔ f.FailsFirst s e ∧ t = s := by
  by_cases h : f.InOrder s
  · have hnext := hs.counted.grant_ne_next (hroom.lastGrant_le (n := 0))
    obtain ⟨id, t, hrun, hstored⟩ := h.run_addGrant now hnext
    refine ⟨iff_of_true (by rw [hrun]; rfl) h, fun id' t' hrun' => ?_, fun e t' => ?_⟩
    · cases hrun.symm.trans hrun'
      exact hstored
    · refine iff_of_false (fun hrun' => ?_) fun ⟨hfails, _⟩ => ?_
      · cases hrun.symm.trans hrun'
      · cases hrun.symm.trans (hfails.run_addGrant now)
  · obtain ⟨e, hfails⟩ := GrantForm.exists_failsFirst h
    have hrun := hfails.run_addGrant now
    refine ⟨iff_of_false (by rw [hrun]; exact Bool.false_ne_true) h, fun id t hrun' => ?_,
      fun e' t => ⟨fun hrun' => ?_, ?_⟩⟩
    · cases hrun.symm.trans hrun'
    · cases hrun.symm.trans hrun'
      exact ⟨hfails, rfl⟩
    · rintro ⟨hfails', rfl⟩
      exact hfails'.run_addGrant now

/-- A form for the writers with a blank section, no action, and an instance of nothing. -/
def blankForm : GrantForm := { area := " ", itemId := some 4, action := "", role := some ⟨1⟩ }

/-- The teams store what the form for a user asks for, and refuse the blank one for its section. -/
theorem forms_are_stored_exactly_teams :
    teams.ReachableInRange ∧ teams.Room 0 1 ∧
      (∃ id t, ((Backend.memory newYear).addGrant loanForm).run teams = (.ok id, t) ∧
        loanForm.StoredAs teams id t) ∧
      ((Backend.memory newYear).addGrant blankForm).run teams =
        (.error (.validation .blankArea), teams) := by
  have hroom : teams.Room 0 1 := ⟨by decide +kernel, by decide +kernel⟩
  have hstored := forms_are_stored_exactly newYear reachableInRange_teams hroom
  have hloan : (((Backend.memory newYear).addGrant loanForm).run teams).1.isOk = true := by
    decide +kernel
  have hblank : blankForm.FailsFirst teams (.validation .blankArea) := by
    refine ⟨.area, .blankArea (by decide), fun c hlt => ?_⟩
    cases c with
    | owner => rfl
    | area | action | narrowing | role => exact absurd hlt (by decide)
  obtain ⟨id, t, hrun⟩ := Action.exists_run_eq_ok hloan
  exact ⟨reachableInRange_teams, hroom, ⟨id, t, hrun, (hstored loanForm).2.1 id t hrun⟩,
    ((hstored blankForm).2.2 _ _).2 ⟨hblank, rfl⟩⟩

end Gatehouse
