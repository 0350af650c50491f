import Gatehouse.Proofs.Inclusion
import Mathlib.Data.List.Nodup
import Mathlib.Data.Set.Basic

/-!
# The list of inclusions

`Store.said` is the set of all that the grants of a role say.  One role includes another when the
set of the other one is part of its own and not empty (`Store.Includes`).  The list of all pairs of
roles has exactly these, each once and in order, and what is told about a single role is read off
the same list (`Store.Tabulates`).
-/

set_option autoImplicit false

namespace Gatehouse

open Std

/-! ## Inclusion -/

namespace Store

/-- What the grants of a role say. -/
def said (s : Store) (id : RoleId) : Set Terms :=
  {t | ∃ g ∈ s.grants, g.owner = .role id ∧ g.toTerms = t}

/-- One role includes another one: whatever the other one's grants say, and they say something, is
said by its own. -/
structure Includes (s : Store) (a b : Role) : Prop where
  /-- They are two roles. -/
  ne : a ≠ b
  /-- The second one has a grant. -/
  nonempty : (s.said b.id).Nonempty
  /-- What the second one says is said by the first. -/
  subset : s.said b.id ⊆ s.said a.id

theorem subsumes_iff {s : Store} {a b : RoleId} : s.Subsumes a b ↔ s.said b ⊆ s.said a := by
  constructor
  · rintro h t ⟨g, hg, howner, rfl⟩
    exact h g hg howner
  · intro h g hg howner
    exact h ⟨g, hg, howner, rfl⟩

/-- Inclusion is transitive between roles that differ. -/
theorem Includes.trans {s : Store} {a b c : Role} (hab : s.Includes a b) (hbc : s.Includes b c)
    (hac : a ≠ c) : s.Includes a c :=
  ⟨hac, hbc.nonempty, hbc.subset.trans hab.subset⟩

/-- Two roles that include each other say the same. -/
theorem includes_and_includes_iff {s : Store} {a b : Role} (hab : a ≠ b) :
    s.Includes a b ∧ s.Includes b a ↔ s.said a.id = s.said b.id ∧ (s.said b.id).Nonempty := by
  constructor
  · rintro ⟨hincludes, hback⟩
    exact ⟨hback.subset.antisymm hincludes.subset, hincludes.nonempty⟩
  · rintro ⟨hsame, hsome⟩
    exact ⟨⟨hab, hsome, hsame.ge⟩, hab.symm, hsame ▸ hsome, hsame.le⟩

variable {s : Store}

/-- The roles listed for a role are those that it includes. -/
theorem mem_includedBy_iff_includes {a : Role} (ha : a ∈ s.roles) {name : String} :
    name ∈ includedBy (a, s.grantsOfRole a.id) s.roleGrants ↔
      ∃ b ∈ s.roles, b.name = name ∧ s.Includes a b := by
  rw [mem_includedBy]
  refine exists_congr fun b => and_congr_right fun hb => and_congr_right fun _ => ?_
  constructor
  · rintro ⟨hid, ⟨g, hg, howner⟩, hsub⟩
    exact ⟨fun hab => hid (hab ▸ rfl), ⟨_, g, hg, howner, rfl⟩, subsumes_iff.1 hsub⟩
  · rintro ⟨hne, ⟨_, g, hg, howner, rfl⟩, hsubset⟩
    exact ⟨fun hid => hne (eq_of_id_eq ha hb hid.symm), ⟨g, hg, howner⟩,
      subsumes_iff.2 hsubset⟩

/-- The pairs listed are those of a role and another one that it includes. -/
theorem mem_inclusionPairs {a b : String} :
    ⟨a, b⟩ ∈ inclusionPairs s.roleGrants ↔
      ∃ ra ∈ s.roles, ∃ rb ∈ s.roles, ra.name = a ∧ rb.name = b ∧ s.Includes ra rb := by
  simp only [inclusionPairs, mem_sortBy, List.mem_flatMap, List.mem_map, InclusionPair.mk.injEq]
  constructor
  · rintro ⟨⟨ra, grants⟩, hp, name, hname, hra, rfl⟩
    obtain ⟨hmem, hgrants⟩ := mem_roleGrants.1 hp
    obtain rfl : grants = s.grantsOfRole ra.id := hgrants
    obtain ⟨rb, hrb, hrbName, hincludes⟩ := (mem_includedBy_iff_includes hmem).1 hname
    exact ⟨ra, hmem, rb, hrb, hra, hrbName, hincludes⟩
  · rintro ⟨ra, hra, rb, hrb, rfl, rfl, hincludes⟩
    exact ⟨(ra, s.grantsOfRole ra.id), mem_roleGrants.2 ⟨hra, rfl⟩, rb.name,
      (mem_includedBy_iff_includes hra).2 ⟨rb, hrb, rfl, hincludes⟩, rfl, rfl⟩

end Store

/-! ## Order -/

instance : LawfulEqCmp InclusionPair.order where
  eq_of_compare {p q} h := by
    obtain ⟨a, b⟩ := p
    obtain ⟨a', b'⟩ := q
    simp only [InclusionPair.order, compareLex, compareOn, Ordering.then_eq_eq,
      LawfulEqCmp.compare_eq_iff_eq] at h
    rw [h.1, h.2]

section Names

variable {s : Store}

/-- Where names tell roles apart, each is listed once. -/
theorem Store.Coherent.nodup_roleGrants_names (hs : s.Coherent) :
    (s.roleGrants.map (·.1.name)).Nodup := by
  have hperm : (s.roleGrants.map (·.1.name)).Perm (s.roles.rows.map (·.name)) := by
    rw [Store.roleGrants, List.map_map]
    exact (sortBy_perm _ _).map _
  exact hperm.nodup_iff.2 hs.nodup_names

theorem Store.Coherent.ascending_includedBy (hs : s.Coherent) (target : RoleGrants) :
    Ascending compare (includedBy target s.roleGrants) :=
  ascending_sortBy (hs.nodup_roleGrants_names.sublist (List.filter_sublist.map _))

theorem Store.Coherent.ascending_inclusionPairs (hs : s.Coherent) :
    Ascending InclusionPair.order (inclusionPairs s.roleGrants) := by
  refine ascending_sortBy (List.nodup_flatMap.2 ⟨fun target _ => ?_, ?_⟩)
  · have hnames : (includedBy target s.roleGrants).Nodup := (hs.ascending_includedBy target).nodup
    exact hnames.map fun a b hab => congrArg InclusionPair.included hab
  · -- Pairs from different roles differ in the role that includes.
    refine (List.pairwise_map.1 hs.nodup_roleGrants_names).imp fun {p q} hne => ?_
    intro x hp hq
    obtain ⟨_, -, rfl⟩ := List.mem_map.1 hp
    obtain ⟨_, -, heq⟩ := List.mem_map.1 hq
    exact hne (congrArg InclusionPair.includer heq).symm

end Names

/-- The second names of the pairs with a first name. -/
def includedIn (pairs : List InclusionPair) (name : String) : List String :=
  (pairs.filter (·.includer == name)).map (·.included)

theorem mem_includedIn {pairs : List InclusionPair} {a b : String} :
    b ∈ includedIn pairs a ↔ ⟨a, b⟩ ∈ pairs := by
  simp only [includedIn, List.mem_map, List.mem_filter, beq_iff_eq]
  constructor
  · rintro ⟨⟨_, _⟩, ⟨hp, rfl⟩, rfl⟩
    exact hp
  · intro hp
    exact ⟨⟨a, b⟩, ⟨hp, rfl⟩, rfl⟩

theorem ascending_includedIn {pairs : List InclusionPair} (h : Ascending InclusionPair.order pairs)
    (name : String) : Ascending compare (includedIn pairs name) := by
  rw [includedIn, Ascending, List.pairwise_map]
  refine (h.filter _).imp_of_mem fun {p q} hp hq hlt => ?_
  have hpName : p.includer = name := eq_of_beq (List.mem_filter.1 hp).2
  have hqName : q.includer = name := eq_of_beq (List.mem_filter.1 hq).2
  simpa [InclusionPair.order, compareLex, compareOn, hpName, hqName] using hlt

/-- The names listed for a role are those that its pairs have. -/
theorem Store.Coherent.includedBy_eq {s : Store} (hs : s.Coherent) {a : Role} (ha : a ∈ s.roles) :
    includedBy (a, s.grantsOfRole a.id) s.roleGrants =
      includedIn (inclusionPairs s.roleGrants) a.name := by
  refine (hs.ascending_includedBy _).eq_of_mem_iff
    (ascending_includedIn hs.ascending_inclusionPairs a.name) fun name => ?_
  rw [mem_includedIn, Store.mem_includedBy_iff_includes ha, Store.mem_inclusionPairs]
  constructor
  · rintro ⟨b, hb, hname, hincludes⟩
    exact ⟨a, ha, b, hb, rfl, hname, hincludes⟩
  · rintro ⟨a', ha', b, hb, hsame, hname, hincludes⟩
    obtain rfl : a' = a := hs.names _ ha' _ ha hsame
    exact ⟨b, hb, hname, hincludes⟩

/-! ## The table -/

/-- The pairs are all the inclusions between the roles of a store, and what is told about a single
role agrees with them. -/
structure Store.Tabulates (s : Store) (now : Stamp) (pairs : List InclusionPair) : Prop where
  /-- Each pair comes once, in order. -/
  ascending : Ascending InclusionPair.order pairs
  /-- The pairs are the names of a role and another one that it includes. -/
  mem_iff : ∀ a b, ⟨a, b⟩ ∈ pairs ↔
    ∃ ra ∈ s.roles, ∃ rb ∈ s.roles, ra.name = a ∧ rb.name = b ∧ s.Includes ra rb
  /-- What is told about a role that is there, alone or with everything else, are the names paired
  with its own. -/
  told : ∀ role ∈ s.roles,
    ((Backend.memory now).inclusions role.name).run s = (.ok (includedIn pairs role.name), s) ∧
      ∃ inspection, ((Backend.memory now).inspect role.name).run s = (.ok inspection, s) ∧
        inspection.includes = includedIn pairs role.name
  /-- These names are in order. -/
  toldInOrder : ∀ name, Ascending compare (includedIn pairs name)
  /-- Nothing is told about a role that is not there. -/
  missing : ∀ name, (∀ role ∈ s.roles, role.name ≠ name) →
    ((Backend.memory now).inclusions name).run s = (.error (.notFound (.roleNamed name)), s) ∧
      ((Backend.memory now).inspect name).run s = (.error (.notFound (.roleNamed name)), s)
  /-- Being paired carries over, except from a role to itself. -/
  trans : ∀ a b c, ⟨a, b⟩ ∈ pairs → ⟨b, c⟩ ∈ pairs → a ≠ c → ⟨a, c⟩ ∈ pairs
  /-- Two roles are paired both ways if they say the same and something. -/
  mutual_iff : ∀ ra ∈ s.roles, ∀ rb ∈ s.roles, ra ≠ rb →
    (⟨ra.name, rb.name⟩ ∈ pairs ∧ ⟨rb.name, ra.name⟩ ∈ pairs ↔
      s.said ra.id = s.said rb.id ∧ (s.said rb.id).Nonempty)

theorem run_inspect_memory (now : Stamp) {s : Store} (hs : s.Coherent) {a : Role}
    (ha : a ∈ s.roles) :
    ((Backend.memory now).inspect a.name).run s =
      (.ok ⟨a, s.usersOf a.id, s.grantsOfRole a.id,
        includedBy (a, s.grantsOfRole a.id) s.roleGrants⟩, s) := by
  rw [Backend.inspect, Action.run_bind_of_ok (run_allGrants_memory now s),
    Action.run_bind_of_ok (run_select_of_mem hs ha)]
  rfl

theorem Store.Coherent.mem_inclusionPairs_iff_includes {s : Store} (hs : s.Coherent) {a b : Role}
    (ha : a ∈ s.roles) (hb : b ∈ s.roles) :
    ⟨a.name, b.name⟩ ∈ inclusionPairs s.roleGrants ↔ s.Includes a b := by
  rw [Store.mem_inclusionPairs]
  constructor
  · rintro ⟨a', ha', b', hb', haName, hbName, hincludes⟩
    obtain rfl : a' = a := hs.names _ ha' _ ha haName
    obtain rfl : b' = b := hs.names _ hb' _ hb hbName
    exact hincludes
  · intro hincludes
    exact ⟨a, ha, b, hb, rfl, rfl, hincludes⟩

theorem Store.Coherent.tabulates {s : Store} (hs : s.Coherent) (now : Stamp) :
    s.Tabulates now (inclusionPairs s.roleGrants) where
  ascending := hs.ascending_inclusionPairs
  mem_iff _ _ := Store.mem_inclusionPairs
  told role hrole := by
    rw [run_inclusions_memory now hs hrole, run_inspect_memory now hs hrole,
      hs.includedBy_eq hrole]
    exact ⟨rfl, _, rfl, rfl⟩
  toldInOrder := ascending_includedIn hs.ascending_inclusionPairs
  missing name h := by
    rw [Backend.inclusions, Backend.inspect, Action.run_bind_of_ok (run_allGrants_memory now s),
      Action.run_bind_of_ok (run_allGrants_memory now s)]
    exact ⟨Action.run_bind_of_error (run_select_of_missing h),
      Action.run_bind_of_error (run_select_of_missing h)⟩
  trans a b c hab hbc hac := by
    obtain ⟨ra, hra, rb, hrb, rfl, rfl, hincludes⟩ := Store.mem_inclusionPairs.1 hab
    obtain ⟨rb', hrb', rc, hrc, hname, rfl, hincludes'⟩ := Store.mem_inclusionPairs.1 hbc
    obtain rfl : rb' = rb := hs.names _ hrb' _ hrb hname
    have hne : ra ≠ rc := fun h => hac (congrArg Role.name h)
    exact (hs.mem_inclusionPairs_iff_includes hra hrc).2 (hincludes.trans hincludes' hne)
  mutual_iff ra hra rb hrb hne := by
    rw [hs.mem_inclusionPairs_iff_includes hra hrb, hs.mem_inclusionPairs_iff_includes hrb hra]
    exact Store.includes_and_includes_iff hne

/-- **The list of inclusions is strict inclusion of what roles say, exactly.**  Listing all pairs
never fails on a store that was reached; what it gives is in order and complete, and agrees with
what is told about each role. -/
theorem matrix_tabulates (now : Stamp) {s : Store} (hs : s.Reachable) :
    ∃ pairs, (Backend.memory now).matrix.run s = (.ok pairs, s) ∧ s.Tabulates now pairs := by
  refine ⟨inclusionPairs s.roleGrants, ?_, hs.coherent.tabulates now⟩
  rw [Backend.matrix, Action.run_bind_of_ok (run_allGrants_memory now s)]
  rfl

/-- Among the teams the writers and the editors include each other, and there is no other
inclusion: the guests, who have one grant, include nobody. -/
theorem matrix_tabulates_teams :
    ∃ pairs, (Backend.memory newYear).matrix.run teams = (.ok pairs, teams) ∧
      pairs = [⟨"editors", "writers"⟩, ⟨"writers", "editors"⟩] ∧
      ((Backend.memory newYear).inclusions "writers").run teams = (.ok ["editors"], teams) ∧
      teams.said ⟨1⟩ = teams.said ⟨2⟩ := by
  have hteams : teams.Reachable := reachableInRange_teams.reachable
  obtain ⟨pairs, hrun, htable⟩ := matrix_tabulates newYear hteams
  have hpairs : pairs = [⟨"editors", "writers"⟩, ⟨"writers", "editors"⟩] := by
    have hmatrix : (Backend.memory newYear).matrix.run teams =
        (.ok [⟨"editors", "writers"⟩, ⟨"writers", "editors"⟩], teams) := by rfl
    rw [hrun] at hmatrix
    cases hmatrix
    rfl
  subst hpairs
  have hwriters : teamRole 1 "writers" ∈ teams.roles := by decide
  have heditors : teamRole 2 "editors" ∈ teams.roles := by decide
  have hmutual := htable.mutual_iff _ hwriters _ heditors (by decide)
  exact ⟨_, hrun, rfl, (htable.told _ hwriters).1, (hmutual.1 (by decide)).1⟩

end Gatehouse
