import Gatehouse.Proofs.Store.Reachable
import Gatehouse.Template.Sync
import Mathlib.Data.List.Nodup

/-!
# What roles are exchanged for

When users are moved to a scenario, a role of the scenario stays and any other role becomes the only
role of its class in the scenario, or nothing (`Scenario.Becomes`).  The rule speaks about names and
flags alone.  The plan is made from identities as well: the roles of the scenario are looked up
once (`Store.known`), and so is who holds what (`Store.held`).  In a coherent store the two agree
(`becomes_of_target?`, `target?_eq_some_iff`).

What changes for a user follows from two sets of names, those of the roles held and those of the
roles these become (`mem_add_change`, `mem_remove_change`).
-/

set_option autoImplicit false

namespace Gatehouse

open Std

/-! ## The rule -/

/-- The template is the only one of its class in the scenario. -/
structure Scenario.OnlyOf (sc : Scenario) (c : RoleClass) (d : RoleTemplate) : Prop where
  /-- The template is one of the scenario. -/
  mem : d ∈ sc.roles
  /-- It says that the role is of the class. -/
  roleClass : d.roleClass = c
  /-- No other template says so. -/
  only : ∀ e ∈ sc.roles, e.roleClass = c → e = d

/-- A role that users hold becomes the role with a name. -/
inductive Scenario.Becomes (sc : Scenario) (r : Role) : String → Prop
  /-- A role of the scenario stays what it is. -/
  | kept (own : ∃ d ∈ sc.roles, d.name = r.name) : Becomes sc r r.name
  /-- Any other role is exchanged for the only one of its class. -/
  | exchanged {d : RoleTemplate} (other : ∀ e ∈ sc.roles, e.name ≠ r.name)
      (only : sc.OnlyOf r.roleClass d) : Becomes sc r d.name

/-- A role is of the class of administration exactly if its holders administer the site. -/
theorem RoleClass.of_eq_admin_iff {isAdmin canLogin : Bool} :
    RoleClass.of isAdmin canLogin = .admin ↔ isAdmin = true := by
  cases isAdmin <;> cases canLogin <;> simp [RoleClass.of]

theorem Scenario.onlyOf_of_filter_eq {sc : Scenario} {c : RoleClass} {d : RoleTemplate}
    (h : sc.roles.filter (·.roleClass == c) = [d]) : sc.OnlyOf c d := by
  have hmem : ∀ e, e ∈ sc.roles ∧ e.roleClass = c ↔ e ∈ [d] := fun e => by
    rw [← h, List.mem_filter, beq_iff_eq]
  obtain ⟨hd, hclass⟩ := (hmem d).2 (List.mem_singleton_self d)
  exact ⟨hd, hclass, fun e he heclass => List.mem_singleton.1 ((hmem e).1 ⟨he, heclass⟩)⟩

/-- Where the roles of a scenario have distinct names, the only template of a class comes once. -/
theorem Scenario.OnlyOf.filter_eq {sc : Scenario} {c : RoleClass} {d : RoleTemplate}
    (h : sc.OnlyOf c d) (hnames : (sc.roles.map (·.name)).Nodup) :
    sc.roles.filter (·.roleClass == c) = [d] := by
  refine List.perm_singleton.1 <|
    (List.perm_ext_iff_of_nodup (hnames.of_map.filter _) (List.nodup_singleton d)).2 fun e => ?_
  rw [List.mem_filter, beq_iff_eq, List.mem_singleton]
  exact ⟨fun he => h.only e he.1 he.2, fun he => he ▸ ⟨h.mem, h.roleClass⟩⟩

/-! ## What is looked up -/

namespace Store

variable {s : Store} {ds : List RoleTemplate}

/-- The templates whose roles are there, each with its role. -/
def known (s : Store) (ds : List RoleTemplate) : KnownRoles :=
  ds.filterMap fun d => (s.roleNamed? d.name).map fun r => (d, r)

/-- The roles a user holds, in the order of their identities. -/
def held (s : Store) (user : UserId) : List Role :=
  (s.links.rows.filter (·.user == user)).filterMap fun l => s.role? l.role

theorem mem_known (hs : s.Coherent) {p : RoleTemplate × Role} :
    p ∈ s.known ds ↔ p.1 ∈ ds ∧ p.2 ∈ s.roles ∧ p.2.name = p.1.name := by
  obtain ⟨d, r⟩ := p
  rw [known, List.mem_filterMap, ← hs.roleNamed?_eq_some_iff]
  constructor
  · rintro ⟨e, he, heq⟩
    obtain ⟨r', hr', hp⟩ := Option.map_eq_some_iff.1 heq
    cases hp
    exact ⟨he, hr'⟩
  · rintro ⟨hd, hr⟩
    exact ⟨d, hd, Option.map_eq_some_iff.2 ⟨r, hr, rfl⟩⟩

theorem map_fst_known (hs : s.Coherent) (hthere : ∀ d ∈ ds, ∃ r ∈ s.roles, r.name = d.name) :
    (s.known ds).map Prod.fst = ds := by
  induction ds with
  | nil => rfl
  | cons d rest ih =>
    obtain ⟨r, hr, hname⟩ := hthere d List.mem_cons_self
    have hfound : s.roleNamed? d.name = some r := hs.roleNamed?_eq_some_iff.2 ⟨hr, hname⟩
    have hrest := ih fun e he => hthere e (List.mem_cons_of_mem d he)
    rw [known] at hrest ⊢
    rw [List.filterMap_cons, hfound, Option.map_some, List.map_cons, hrest]

theorem mem_held {user : UserId} {r : Role} :
    r ∈ s.held user ↔ r ∈ s.roles ∧ ⟨user, r.id⟩ ∈ s.links := by
  simp only [held, List.mem_filterMap, List.mem_filter, beq_iff_eq, role?_eq_some_iff,
    ← Table.mem_def]
  constructor
  · rintro ⟨⟨user, id⟩, ⟨hl, rfl⟩, hr, rfl⟩
    exact ⟨hr, hl⟩
  · rintro ⟨hr, hl⟩
    exact ⟨⟨user, r.id⟩, ⟨hl, rfl⟩, hr, rfl⟩

/-! ## The plan for a role -/

/-- What a role becomes, told from names and templates only. -/
theorem target?_known (hs : s.Coherent) (hthere : ∀ d ∈ ds, ∃ r ∈ s.roles, r.name = d.name)
    {r : Role} (hr : r ∈ s.roles) :
    (s.known ds).target? r =
      if ∃ d ∈ ds, d.name = r.name then some r.name
      else match ds.filter (·.roleClass == r.roleClass) with
        | [d] => some d.name
        | _ => none := by
  have hown : (∃ p ∈ s.known ds, p.2.id = r.id) ↔ ∃ d ∈ ds, d.name = r.name := by
    constructor
    · rintro ⟨p, hp, hid⟩
      obtain ⟨hd, hrole, hname⟩ := (mem_known hs).1 hp
      exact ⟨p.1, hd, by rw [← hname, eq_of_id_eq hrole hr hid]⟩
    · rintro ⟨d, hd, hname⟩
      exact ⟨(d, r), (mem_known hs).2 ⟨hd, hr, hname.symm⟩, rfl⟩
  have hclass : ((s.known ds).filter fun p => p.1.roleClass == r.roleClass).map Prod.fst =
      ds.filter (·.roleClass == r.roleClass) := by
    conv_rhs => rw [← map_fst_known hs hthere, List.filter_map]
    rfl
  rw [KnownRoles.target?]
  cases hfind : (s.known ds).find? fun p => p.2.id == r.id with
  | some p =>
    have hp : p ∈ s.known ds := List.mem_of_find?_eq_some hfind
    have hid : p.2.id = r.id := by simpa using List.find?_some hfind
    rw [if_pos (hown.1 ⟨p, hp, hid⟩)]
    dsimp only
    rw [eq_of_id_eq ((mem_known hs).1 hp).2.1 hr hid]
  | none =>
    rw [List.find?_eq_none] at hfind
    rw [if_neg fun h => ?_]
    · rw [← hclass]
      generalize (s.known ds).filter (fun p => p.1.roleClass == r.roleClass) = ps
      rcases ps with _ | ⟨p, _ | ⟨q, rest⟩⟩ <;> rfl
    · obtain ⟨p, hp, hid⟩ := hown.2 h
      exact hfind p hp (beq_iff_eq.2 hid)

variable {sc : Scenario}

/-- What the plan makes of a role is what the rule says. -/
theorem becomes_of_target? (hs : s.Coherent)
    (hthere : ∀ d ∈ sc.roles, ∃ r ∈ s.roles, r.name = d.name) {r : Role} (hr : r ∈ s.roles)
    {name : String} (h : (s.known sc.roles).target? r = some name) : sc.Becomes r name := by
  rw [target?_known hs hthere hr] at h
  split at h
  · rename_i hown
    cases h
    exact .kept hown
  · rename_i hother
    split at h <;> cases h
    rename_i d hfilter
    exact .exchanged (fun e he hname => hother ⟨e, he, hname⟩)
      (Scenario.onlyOf_of_filter_eq hfilter)

/-- Where the roles of the scenario have distinct names, the plan does all that the rule says. -/
theorem target?_eq_some_iff (hs : s.Coherent)
    (hthere : ∀ d ∈ sc.roles, ∃ r ∈ s.roles, r.name = d.name)
    (hnames : (sc.roles.map (·.name)).Nodup) {r : Role} (hr : r ∈ s.roles) {name : String} :
    (s.known sc.roles).target? r = some name ↔ sc.Becomes r name := by
  refine ⟨becomes_of_target? hs hthere hr, fun h => ?_⟩
  rw [target?_known hs hthere hr]
  cases h with
  | kept own => rw [if_pos own]
  | exchanged other only =>
    rw [if_neg fun ⟨e, he, hname⟩ => other e he hname, only.filter_eq hnames]

/-- Roles become roles of the scenario, which are there. -/
theorem exists_role_of_target? (hs : s.Coherent)
    (hthere : ∀ d ∈ ds, ∃ r ∈ s.roles, r.name = d.name) {r : Role} (hr : r ∈ s.roles)
    {name : String} (h : (s.known ds).target? r = some name) :
    ∃ p ∈ s.known ds, p.2.name = name := by
  have hname : ∃ d ∈ ds, d.name = name := by
    rw [target?_known hs hthere hr] at h
    split at h
    · rename_i hown
      cases h
      exact hown
    · split at h <;> cases h
      rename_i d hfilter
      have hd : d ∈ ds.filter (·.roleClass == r.roleClass) := hfilter ▸ List.mem_singleton_self d
      exact ⟨d, (List.mem_filter.1 hd).1, rfl⟩
  obtain ⟨d, hd, rfl⟩ := hname
  obtain ⟨new, hnew, hname⟩ := hthere d hd
  exact ⟨(d, new), (mem_known hs).2 ⟨hd, hnew, hname⟩, hname⟩

end Store

/-! ## The plan for a user -/

namespace KnownRoles

variable {known : KnownRoles} {user : UserId} {held : List Role} {name : String}

@[simp] theorem user_change : (known.change user held).user = user := rfl

theorem mem_add_change : name ∈ (known.change user held).add ↔
    name ∈ held.filterMap known.target? ∧ name ∉ held.map (·.name) := by
  rw [change, ← Table.mem_def, Table.mem_filter, Table.mem_ofList, decide_eq_true_iff,
    Table.mem_ofList]

theorem mem_remove_change : name ∈ (known.change user held).remove ↔
    name ∈ held.map (·.name) ∧ name ∉ held.filterMap known.target? := by
  rw [change, ← Table.mem_def, Table.mem_filter, Table.mem_ofList, decide_eq_true_iff,
    Table.mem_ofList]

/-- Nothing changes for a user exactly if the roles held become roles held and come from such. -/
theorem isEmpty_change_iff : (known.change user held).isEmpty = true ↔
    ∀ name, name ∈ held.filterMap known.target? ↔ name ∈ held.map (·.name) := by
  rw [UserChange.isEmpty, Bool.and_eq_true, List.isEmpty_iff, List.isEmpty_iff,
    List.eq_nil_iff_forall_not_mem, List.eq_nil_iff_forall_not_mem]
  simp only [mem_add_change, mem_remove_change, not_and, not_not]
  exact ⟨fun h name => ⟨h.1 name, h.2 name⟩, fun h => ⟨fun n => (h n).1, fun n => (h n).2⟩⟩

theorem ascending_add_change : Ascending compare (known.change user held).add :=
  Table.ascending _

theorem ascending_remove_change : Ascending compare (known.change user held).remove :=
  Table.ascending _

end KnownRoles

end Gatehouse
