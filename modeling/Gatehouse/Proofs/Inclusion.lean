import Gatehouse.Inclusion
import Gatehouse.Proofs.Check
import Gatehouse.Proofs.Store.Memory
import Gatehouse.Proofs.Store.Reachable

/-!
# Roles that another role makes redundant

When a role is told to include another, everything the other one's grants say is said by its own
grants as well, up to the remarks and down to whether a grant is in force (`Store.Subsumes`).  So
whoever holds the including role can be given the included one, or lose it, without any decision
changing: the terms that count for a request are the same (`Subsumes.counting_of`), whatever else
the subject holds.  Two roles that include each other can stand for one another.
-/

set_option autoImplicit false

namespace Gatehouse

/-! ## What is told about roles -/

namespace Store

/-- All roles with their grants, by name. -/
def roleGrants (s : Store) : List RoleGrants := s.roleList.map fun r => (r, s.grantsOfRole r.id)

theorem mem_roleGrants {s : Store} {p : RoleGrants} :
    p ∈ s.roleGrants ↔ p.1 ∈ s.roles ∧ p.2 = s.grantsOfRole p.1.id := by
  obtain ⟨r, grants⟩ := p
  simp only [roleGrants, roleList, List.mem_map, mem_sortBy, Prod.mk.injEq, ← Table.mem_def]
  constructor
  · rintro ⟨r', hr, rfl, rfl⟩
    exact ⟨hr, rfl⟩
  · rintro ⟨hr, rfl⟩
    exact ⟨r, hr, rfl, rfl⟩

end Store

theorem run_withGrants_memory (now : Stamp) (s : Store) (roles : List Role) :
    ((Backend.memory now).withGrants roles).run s =
      (.ok (roles.map fun r => (r, s.grantsOfRole r.id)), s) := by
  induction roles with
  | nil => rfl
  | cons r rest ih =>
    simp only [Backend.withGrants, Action.run_bind, Backend.run_grantsOfRole_memory, ih,
      Action.run_pure, List.map_cons]

theorem run_allGrants_memory (now : Stamp) (s : Store) :
    (Backend.memory now).allGrants.run s = (.ok s.roleGrants, s) := by
  simp only [Backend.allGrants, Action.run_bind, Backend.run_roles_memory, run_withGrants_memory,
    Store.roleGrants]

/-- The role with a name is selected, where names tell roles apart. -/
theorem run_select_of_mem {s : Store} (hs : s.Coherent) {a : Role} (ha : a ∈ s.roles) :
    (Backend.select s.roleGrants a.name).run s = (.ok (a, s.grantsOfRole a.id), s) := by
  rw [Backend.select, Action.run_require_eq_ok_iff]
  refine ⟨?_, rfl⟩
  have hfound : (s.roleGrants.find? (·.1.name == a.name)).isSome = true :=
    List.find?_isSome.2
      ⟨(a, s.grantsOfRole a.id), Store.mem_roleGrants.2 ⟨ha, rfl⟩, beq_self_eq_true _⟩
  obtain ⟨p, hp⟩ := Option.isSome_iff_exists.1 hfound
  obtain ⟨hrole, hgrants⟩ := Store.mem_roleGrants.1 (List.mem_of_find?_eq_some hp)
  have hname := List.find?_some hp
  rw [beq_iff_eq] at hname
  obtain rfl : p.1 = a := hs.names _ hrole _ ha hname
  rw [hp, ← hgrants]

/-- A role that is not there is not selected. -/
theorem run_select_of_missing {s : Store} {name : String} (h : ∀ r ∈ s.roles, r.name ≠ name) :
    (Backend.select s.roleGrants name).run s = (.error (.notFound (.roleNamed name)), s) := by
  have hnone : s.roleGrants.find? (·.1.name == name) = none :=
    List.find?_eq_none.2 fun p hp hname => h p.1 (Store.mem_roleGrants.1 hp).1 (eq_of_beq hname)
  rw [Backend.select, hnone]
  rfl

theorem run_inclusions_memory (now : Stamp) {s : Store} (hs : s.Coherent) {a : Role}
    (ha : a ∈ s.roles) :
    ((Backend.memory now).inclusions a.name).run s =
      (.ok (includedBy (a, s.grantsOfRole a.id) s.roleGrants), s) := by
  rw [Backend.inclusions, Action.run_bind_of_ok (run_allGrants_memory now s),
    Action.run_bind_of_ok (run_select_of_mem hs ha)]
  rfl

/-- One role is told to include the other. -/
def Store.Lists (s : Store) (now : Stamp) (a b : Role) : Prop :=
  ∃ names, ((Backend.memory now).inclusions a.name).run s = (.ok names, s) ∧ b.name ∈ names

/-! ## What it means -/

/-- All that the grants of the second role say is said by the grants of the first. -/
def Store.Subsumes (s : Store) (a b : RoleId) : Prop :=
  ∀ g ∈ s.grants, g.owner = .role b → ∃ g' ∈ s.grants, g'.owner = .role a ∧ g'.toTerms = g.toTerms

theorem includes_iff {target candidate : List Grant} :
    includes target candidate = true ↔
      ∀ g ∈ candidate, ∃ g' ∈ target, g'.toTerms = g.toTerms := by
  simp [includes]

theorem Store.includes_grantsOfRole_iff {s : Store} {a b : RoleId} :
    includes (s.grantsOfRole a) (s.grantsOfRole b) = true ↔ s.Subsumes a b := by
  simp only [includes_iff, mem_grantsOfRole, and_imp, and_assoc, Store.Subsumes]

/-- The roles listed for a role are the other ones that own a grant and are subsumed. -/
theorem Store.mem_includedBy {s : Store} {a : Role} {name : String} :
    name ∈ includedBy (a, s.grantsOfRole a.id) s.roleGrants ↔
      ∃ b ∈ s.roles, b.name = name ∧ b.id ≠ a.id ∧ (∃ g ∈ s.grants, g.owner = .role b.id) ∧
        s.Subsumes a.id b.id := by
  have howns : ∀ id, (s.grantsOfRole id).isEmpty = false ↔ ∃ g ∈ s.grants, g.owner = .role id := by
    intro id
    rw [List.isEmpty_eq_false_iff_exists_mem]
    simp only [mem_grantsOfRole]
  simp only [includedBy, mem_sortBy, List.mem_map, List.mem_filter, Bool.and_eq_true, bne_iff_ne,
    Bool.not_eq_true']
  constructor
  · rintro ⟨⟨b, grants⟩, ⟨hp, ⟨hid, howner⟩, hincludes⟩, hname⟩
    obtain ⟨hb, hgrants⟩ := mem_roleGrants.1 hp
    obtain rfl : grants = s.grantsOfRole b.id := hgrants
    exact ⟨b, hb, hname, hid, (howns b.id).1 howner, includes_grantsOfRole_iff.1 hincludes⟩
  · rintro ⟨b, hb, hname, hid, howner, hsub⟩
    exact ⟨(b, s.grantsOfRole b.id), ⟨mem_roleGrants.2 ⟨hb, rfl⟩, ⟨hid, (howns b.id).2 howner⟩,
      includes_grantsOfRole_iff.2 hsub⟩, hname⟩

/-- Where names tell roles apart, a role that is told to be included is another one that is
subsumed. -/
theorem Store.Lists.subsumes {s : Store} {now : Stamp} {a b : Role} (hs : s.Coherent)
    (ha : a ∈ s.roles) (hb : b ∈ s.roles) (h : s.Lists now a b) :
    a.id ≠ b.id ∧ s.Subsumes a.id b.id := by
  obtain ⟨names, hrun, hmem⟩ := h
  rw [run_inclusions_memory now hs ha] at hrun
  cases hrun
  obtain ⟨b', hb', hname, hid, -, hsub⟩ := mem_includedBy.1 hmem
  obtain rfl : b' = b := hs.names _ hb' _ hb hname
  exact ⟨hid.symm, hsub⟩

/-! ## What it changes -/

/-- A grant counts by its terms and its owner. -/
theorem Grant.Counts.of_terms {g g' : Grant} {subject subject' : Subject} {q : Request}
    (hg : g.Counts subject q) (hterms : g'.toTerms = g.toTerms)
    (howner : (∃ id ∈ subject'.roles, g'.owner = .role id) ∨
      ∃ id, subject'.user = some id ∧ g'.owner = .user id) : g'.Counts subject' q := by
  refine ⟨?_, ?_, ?_, howner, ?_, ?_⟩ <;> rw [hterms]
  · exact hg.active
  · exact hg.area
  · exact hg.action
  · exact hg.item
  · exact hg.itemId

/-- Roles can be exchanged for others as long as, for each that is lost, one is there that
subsumes it. -/
theorem Store.counting_of_subsumes {s : Store} {roles roles' : List RoleId} {user : Option UserId}
    {q : Request} {t : Terms} (h : ∀ id ∈ roles, id ∈ roles' ∨ ∃ a ∈ roles', s.Subsumes a id)
    (ht : s.counting ⟨roles, user⟩ q t) : s.counting ⟨roles', user⟩ q t := by
  obtain ⟨g, hg, hcounts, rfl⟩ := ht
  rcases hcounts.owner with ⟨id, hid, howner⟩ | huser
  · rcases h id hid with hid' | ⟨a, ha, hsub⟩
    · exact ⟨g, hg, hcounts.of_terms rfl (.inl ⟨id, hid', howner⟩), rfl⟩
    · obtain ⟨g', hg', howner', hterms⟩ := hsub g hg howner
      exact ⟨g', hg', hcounts.of_terms hterms (.inl ⟨a, ha, howner'⟩), hterms⟩
  · exact ⟨g, hg, hcounts.of_terms rfl (.inr huser), rfl⟩

/-- Two lists of roles, each with substitutes for what it lacks of the other, decide alike. -/
theorem Store.decision_eq_of_subsumes {s : Store} {roles roles' : List RoleId}
    (h : ∀ id ∈ roles, id ∈ roles' ∨ ∃ a ∈ roles', s.Subsumes a id)
    (h' : ∀ id ∈ roles', id ∈ roles ∨ ∃ a ∈ roles, s.Subsumes a id) (user : Option UserId)
    (q : Request) : s.decision ⟨roles, user⟩ q = s.decision ⟨roles', user⟩ q :=
  Store.decision_congr fun _ => ⟨Store.counting_of_subsumes h, Store.counting_of_subsumes h'⟩

theorem mem_map_exchange {a b id : RoleId} {roles : List RoleId} :
    id ∈ roles.map (fun r => if r = a then b else r) ↔
      (a ∈ roles ∧ id = b) ∨ (id ∈ roles ∧ id ≠ a) := by
  rw [List.mem_map]
  constructor
  · rintro ⟨r, hr, hid⟩
    split at hid
    · rename_i hra
      exact .inl ⟨hra ▸ hr, hid.symm⟩
    · rename_i hra
      exact .inr ⟨hid ▸ hr, hid ▸ hra⟩
  · rintro (⟨ha, rfl⟩ | ⟨hid, hne⟩)
    · exact ⟨a, ha, if_pos rfl⟩
    · exact ⟨id, hid, if_neg hne⟩

/-- **A role that another one includes is redundant beside it.**  Whoever holds the including role
gets the same decision with the included one as without it, and two roles that include each other
can be exchanged. -/
theorem check_eq_of_lists {now : Stamp} {s : Store} (hs : s.Reachable) {a b : Role}
    (ha : a ∈ s.roles) (hb : b ∈ s.roles) (h : s.Lists now a b) (user : Option UserId)
    (q : Request) :
    (∀ roles roles' : List RoleId, a.id ∈ roles →
      (∀ id, id ≠ b.id → (id ∈ roles ↔ id ∈ roles')) →
        ((Backend.memory now).check ⟨roles, user⟩ q).run s =
          ((Backend.memory now).check ⟨roles', user⟩ q).run s) ∧
    (s.Lists now b a → ∀ roles : List RoleId,
      ((Backend.memory now).check
          ⟨roles.map fun id => if id = a.id then b.id else id, user⟩ q).run s =
        ((Backend.memory now).check ⟨roles, user⟩ q).run s) := by
  obtain ⟨hne, hab⟩ := h.subsumes hs.coherent ha hb
  simp only [run_check_memory]
  refine ⟨fun roles roles' haRoles hother => ?_, fun hba roles => ?_⟩
  · have haRoles' : a.id ∈ roles' := (hother a.id hne).1 haRoles
    rw [Store.decision_eq_of_subsumes (fun id hid => ?_) (fun id hid => ?_)]
    · by_cases hidb : id = b.id
      · exact .inr ⟨a.id, haRoles', hidb ▸ hab⟩
      · exact .inl ((hother id hidb).1 hid)
    · by_cases hidb : id = b.id
      · exact .inr ⟨a.id, haRoles, hidb ▸ hab⟩
      · exact .inl ((hother id hidb).2 hid)
  · have hba' : s.Subsumes b.id a.id := (hba.subsumes hs.coherent hb ha).2
    rw [Store.decision_eq_of_subsumes (fun id hid => ?_) (fun id hid => ?_)]
    · rcases mem_map_exchange.1 hid with ⟨haRoles, rfl⟩ | ⟨hid, -⟩
      · exact .inr ⟨a.id, haRoles, hab⟩
      · exact .inl hid
    · by_cases hida : id = a.id
      · subst hida
        exact .inr ⟨b.id, mem_map_exchange.2 (.inl ⟨hid, rfl⟩), hba'⟩
      · exact .inl (mem_map_exchange.2 (.inr ⟨hid, hida⟩))

/-- One of the roles of the teams. -/
def teamRole (id : Int32) (name : String) : Role :=
  ⟨⟨id⟩, name, ⟨false, false, false⟩, some newYear⟩

/-- The writers include the editors and the other way round, so beside the writers the editors are
redundant, and they can stand for them, whatever is asked. -/
theorem check_eq_of_teams :
    (∀ q, ((Backend.memory newYear).check ⟨[⟨3⟩, ⟨1⟩], some ⟨7⟩⟩ q).run teams =
      ((Backend.memory newYear).check ⟨[⟨2⟩, ⟨3⟩, ⟨1⟩], some ⟨7⟩⟩ q).run teams) ∧
    ∀ q, ((Backend.memory newYear).check ⟨[⟨3⟩, ⟨2⟩], some ⟨7⟩⟩ q).run teams =
      ((Backend.memory newYear).check ⟨[⟨3⟩, ⟨1⟩], some ⟨7⟩⟩ q).run teams := by
  have hwriters : teamRole 1 "writers" ∈ teams.roles := by decide
  have heditors : teamRole 2 "editors" ∈ teams.roles := by decide
  have hlists : teams.Lists newYear (teamRole 1 "writers") (teamRole 2 "editors") :=
    ⟨["editors"], by rfl, by decide⟩
  have hback : teams.Lists newYear (teamRole 2 "editors") (teamRole 1 "writers") :=
    ⟨["writers"], by rfl, by decide⟩
  have hteams : teams.Reachable := reachableInRange_teams.reachable
  have happly := check_eq_of_lists hteams hwriters heditors hlists (some ⟨7⟩)
  constructor
  · intro q
    refine (happly q).1 _ _ (by decide) fun id hid => ?_
    have hother : id ≠ ⟨2⟩ := hid
    simp [hother]
  · intro q
    exact (happly q).2 hback [⟨3⟩, ⟨1⟩]

end Gatehouse
