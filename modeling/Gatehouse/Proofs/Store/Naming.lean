import Gatehouse.Proofs.Lifetime

/-!
# Names that show

A role should have a name that a reader can see: one with something in it that is not blank
(`Shows`).  A role is created under such a name only, in or out of a transaction, also where a
template creates it.  But a change of a role takes any name that no other role has, a blank one too.

So where a name does not show, a change gave it.  `Store.NamesFrom` is the form in which this is
carried from one call (`Operation.namesFrom`) to all that is done at once (`Job.namesFrom`) and to a
whole run (`Store.namesFrom_afterJobs`), in which it finds the change.  What follows for all states
of a run is `names_show_iff_renames_show`, and `blank_name_given` is a run in which a role ends up
with a name that nobody can see.
-/

set_option autoImplicit false

namespace Gatehouse

/-- Something in the text is not blank. -/
def Shows (text : String) : Prop := ∃ c ∈ text.toList, isBlank c = false

theorem shows_iff {text : String} : Shows text ↔ allBlank text = false := by
  simp [Shows, allBlank]

instance (text : String) : Decidable (Shows text) := decidable_of_iff _ shows_iff.symm

/-! ## Where names come from -/

namespace Store

/-- Every role has a name that shows. -/
def Named (s : Store) : Prop := ∀ r ∈ s.roles, Shows r.name

/-- A role of the second store has a name that shows, or had its name in the first store, or was
given it. -/
def NamesFrom (s t : Store) (given : RoleId → String → Prop) : Prop :=
  ∀ r ∈ t.roles,
    Shows r.name ∨ (∃ old ∈ s.roles, old.id = r.id ∧ old.name = r.name) ∨ given r.id r.name

namespace NamesFrom

variable {s t u : Store} {given given' : RoleId → String → Prop}

theorem of_eq (h : t.roles = s.roles) : s.NamesFrom t given := by
  intro r hr
  exact .inr (.inl ⟨r, h ▸ hr, rfl, rfl⟩)

/-- Writing a role. -/
theorem of_insert {role : Role} (h : t.roles = s.roles.insert role)
    (hrole : Shows role.name ∨ (∃ old ∈ s.roles, old.id = role.id ∧ old.name = role.name) ∨
      given role.id role.name) : s.NamesFrom t given := by
  intro r hr
  rw [h] at hr
  rcases mem_roles_insert.1 hr with rfl | ⟨hr, -⟩
  · exact hrole
  · exact .inr (.inl ⟨r, hr, rfl, rfl⟩)

/-- Something tried on a store that fails takes no name away. -/
theorem of_attempt {α : Type} {f : Store → Except Error (α × Store)}
    (h : ∀ a t, f s = .ok (a, t) → s.NamesFrom t given) :
    s.NamesFrom ((Action.attempt f).run s).2 given :=
  Action.state_attempt (P := fun t => s.NamesFrom t given) (.of_eq rfl) h

theorem mono (h : s.NamesFrom t given) (hgiven : ∀ id name, given id name → given' id name) :
    s.NamesFrom t given' := fun r hr =>
  (h r hr).imp_right (.imp_right (hgiven r.id r.name))

theorem trans (h : s.NamesFrom t given) (h' : t.NamesFrom u given) : s.NamesFrom u given := by
  intro r hr
  rcases h' r hr with hshows | ⟨mid, hmid, hid, hname⟩ | hgiven
  · exact .inl hshows
  · rw [← hid, ← hname]
    exact h mid hmid
  · exact .inr (.inr hgiven)

end NamesFrom

end Store

/-! ## Single calls -/

namespace Operation

/-- The role that the call is to give a name, and the name. -/
def rename? : Operation → Option (RoleId × String)
  | .changeRole id change => change.name.map fun name => (id, name)
  | _ => none

/-- The call gives a role a name: it is to do so, and it goes through. -/
structure Renames (op : Operation) (s : Store) (id : RoleId) (name : String) : Prop where
  /-- The call is to give the role the name. -/
  asked : op.rename? = some (id, name)
  /-- The role is there. -/
  there : ∃ r ∈ s.roles, r.id = id
  /-- No other role has the name. -/
  free : ∀ r ∈ s.roles, r.name = name → r.id = id

variable (now : Stamp) {s : Store} {op : Operation}

/-- Only a call that gives a role a name can give it one that does not show. -/
theorem namesFrom (op : Operation) (s : Store) :
    s.NamesFrom (op.after (.memory now) s) (op.Renames s) := by
  cases op with
  | createRole new =>
    refine .of_attempt fun role t hrun => ?_
    obtain ⟨hshows, -, hrole, rfl⟩ := Store.insertRole_eq_ok_iff.1 hrun
    exact .of_insert rfl (.inl (shows_iff.2 (by rwa [hrole])))
  | changeRole id change =>
    refine .of_attempt fun role t hrun => ?_
    obtain ⟨hfree, ⟨-, -, rfl⟩ | ⟨old, hold, -, rfl⟩⟩ := Store.changeRole_eq_ok_iff.1 hrun
    · exact .of_eq rfl
    obtain ⟨hmem, rfl⟩ := Store.role?_eq_some_iff.1 hold
    refine .of_insert rfl (.inr ?_)
    cases hname : change.name with
    | none => exact .inl ⟨old, hmem, rfl, by simp [Role.changed, hname]⟩
    | some name =>
      refine .inr ⟨by simp [rename?, Role.changed, hname], ⟨old, hmem, rfl⟩, ?_⟩
      simpa [Role.changed, hname] using hfree name hname
  | assign | revoke | createGrant | deleteGrant | setActive | clearRole | deleteAlike =>
    refine .of_eq (LeavesRoles.roles_after ?_)
    trivial

/-- A role has the name that a call gives it. -/
theorem Renames.exists_role {id : RoleId} {name : String} (h : op.Renames s id name) :
    ∃ r ∈ (op.after (.memory now) s).roles, r.id = id ∧ r.name = name := by
  obtain ⟨hasked, ⟨old, hmem, rfl⟩, hfree⟩ := h
  cases op with
  | changeRole id change =>
    obtain ⟨name', hname, heq⟩ := Option.map_eq_some_iff.1 hasked
    cases heq
    have hrun : s.changeRole old.id change =
        .ok (some (old.changed change), s.setRole (old.changed change)) := by
      refine Store.changeRole_eq_ok_iff.2 ⟨fun n hn => ?_, .inr ⟨old, ?_, rfl, rfl⟩⟩
      · rw [hname, Option.some.injEq] at hn
        exact hn ▸ hfree
      · exact Store.role?_eq_some_iff.2 ⟨hmem, rfl⟩
    have hafter : (changeRole old.id change).after (.memory now) s =
        s.setRole (old.changed change) :=
      congrArg Prod.snd (Action.run_attempt_eq_ok_iff.2 hrun)
    rw [hafter]
    exact ⟨_, Store.mem_roles_insert.2 (.inl rfl), rfl, by simp [Role.changed, hname]⟩
  | _ => cases hasked

end Operation

/-! ## All that is done at once -/

/-- Calls that are to give no role a name. -/
theorem Store.namesFrom_replay {s : Store} {calls : List (Stamp × Operation)}
    {given : RoleId → String → Prop} (h : ∀ c ∈ calls, c.2.rename? = none) :
    s.NamesFrom (s.replay calls) given := by
  induction calls generalizing s with
  | nil => exact .of_eq rfl
  | cons c rest ih =>
    refine .trans ((c.2.namesFrom c.1 s).mono fun id name hrenames => ?_)
      (ih fun c' hc' => h c' (List.mem_cons_of_mem c hc'))
    have hasked := hrenames.asked
    rw [h c List.mem_cons_self] at hasked
    cases hasked

/-- No call of a transaction is to give a role a name. -/
theorem Activity.rename?_of_mem_calls {writes : List (Stamp × Write)} {kept : Bool} :
    ∀ c ∈ (transaction writes kept).calls, c.2.rename? = none := by
  intro c hc
  cases kept with
  | false => cases hc
  | true =>
    obtain ⟨⟨now, x⟩, -, rfl⟩ := List.mem_map.1 hc
    cases x <;> rfl

namespace Job

/-- The job is a single call, which gives a role a name. -/
def Renames (j : Job) (s : Store) (id : RoleId) (name : String) : Prop :=
  ∃ now op, j = .act (.activity (.call now op)) ∧ op.Renames s id name

/-- A job other than a single call comes to calls that are to give no role a name. -/
theorem rename?_of_mem_calls {j : Job} (hj : ∀ now op, j ≠ .act (.activity (.call now op)))
    (s : Store) : ∀ c ∈ j.calls s, c.2.rename? = none := by
  match j with
  | .act (.activity (.call now op)) => exact absurd rfl (hj now op)
  | .act (.activity (.transaction writes kept)) => exact Activity.rename?_of_mem_calls
  | .act (.apply now l run call) =>
    show ∀ c ∈ (call.activity now l s).calls, c.2.rename? = none
    rw [ApplyCall.activity]
    split <;> exact Activity.rename?_of_mem_calls
  | .purge now area item itemId =>
    intro c hc
    obtain ⟨g, -, rfl⟩ := List.mem_map.1 hc
    rfl

theorem namesFrom (j : Job) (s : Store) : s.NamesFrom (j.after s) (j.Renames s) := by
  by_cases hj : ∃ now op, j = .act (.activity (.call now op))
  · obtain ⟨now, op, rfl⟩ := hj
    exact (op.namesFrom now s).mono fun id name hop => ⟨now, op, rfl, hop⟩
  · rw [j.after_eq_replay]
    exact Store.namesFrom_replay (j.rename?_of_mem_calls (fun now op heq => hj ⟨now, op, heq⟩) s)

end Job

/-! ## Whole runs -/

/-- One of the jobs of a run gives a role a name, when its turn comes. -/
def Store.RenamedBy (s : Store) (jobs : List Job) (id : RoleId) (name : String) : Prop :=
  ∃ before j later, jobs = before ++ j :: later ∧ j.Renames (s.afterJobs before) id name

theorem Store.namesFrom_afterJobs (s : Store) (jobs : List Job) :
    s.NamesFrom (s.afterJobs jobs) (s.RenamedBy jobs) := by
  induction jobs generalizing s with
  | nil => exact .of_eq rfl
  | cons j rest ih =>
    refine .trans ((j.namesFrom s).mono fun id name hj => ⟨[], j, rest, rfl, hj⟩)
      ((ih (j.after s)).mono fun id name hlater => ?_)
    obtain ⟨before, j', later, rfl, hrenames⟩ := hlater
    exact ⟨j :: before, j', later, rfl, hrenames⟩

/-- **A role has a name that does not show only if a change gave it this name.**  Roles are created,
changed and made by templates from the beginning on, by single calls and in transactions, with any
texts for names.  The names that do not show were given by changes that went through; and all names
show in every state of the run exactly if each such change gives a name that shows. -/
theorem names_show_iff_renames_show (jobs : List Job) :
    (∀ r ∈ (Store.empty.afterJobs jobs).roles,
      Shows r.name ∨ Store.empty.RenamedBy jobs r.id r.name) ∧
    ((∀ before later, jobs = before ++ later → (Store.empty.afterJobs before).Named) ↔
      ∀ id name, Store.empty.RenamedBy jobs id name → Shows name) := by
  have hblame : ∀ run : List Job, ∀ r ∈ (Store.empty.afterJobs run).roles,
      Shows r.name ∨ Store.empty.RenamedBy run r.id r.name := by
    intro run r hr
    rcases Store.empty.namesFrom_afterJobs run r hr with hshows | ⟨old, hold, -⟩ | hrenamed
    · exact .inl hshows
    · cases hold
    · exact .inr hrenamed
  refine ⟨hblame jobs, fun hnamed id name hrenamed => ?_, fun hshows => ?_⟩
  · obtain ⟨before, j, later, rfl, now, op, rfl, hop⟩ := hrenamed
    obtain ⟨r, hr, -, rfl⟩ := hop.exists_role now
    refine hnamed (before ++ [.act (.activity (.call now op))]) later (by simp) r ?_
    rwa [Store.afterJobs_append]
  · rintro before later rfl r hr
    rcases hblame before r hr with h | ⟨first, j, between, rfl, hrenames⟩
    · exact h
    · exact hshows r.id r.name ⟨first, j, between ++ later, by simp, hrenames⟩

/-- The guests are created, and then given a blank for a name. -/
def unnamedGuests : List Job :=
  [.act (.activity (.call newYear (.createRole { name := "guests" }))),
    .act (.activity (.call newYear (.changeRole ⟨1⟩ { name := some " " })))]

/-- A change can give a role a name that does not show. -/
theorem blank_name_given :
    ¬∀ jobs : List Job, OrderlyJobs .empty jobs → (Store.empty.afterJobs jobs).Named := by
  intro h
  have horderly : OrderlyJobs .empty unnamedGuests :=
    ⟨⟨⟨trivial, by decide +kernel⟩, trivial⟩, ⟨⟨trivial, by decide +kernel⟩, trivial⟩, trivial⟩
  have hblank : ¬∀ r ∈ (Store.empty.afterJobs unnamedGuests).roles.rows, Shows r.name := by
    decide +kernel
  exact hblank (h unnamedGuests horderly)

end Gatehouse
