import Gatehouse.Proofs.Check
import Gatehouse.Proofs.Export.Group

/-!
# Exports and decisions

What an export says of an action in a scope, compared with the decision on exactly this scope for
someone who holds just the role (`exportRole_agrees_with_check`).

No grant that counts for a request on a scope is narrower than the scope itself, and one that is as
narrow is a grant of this very scope.  So whatever a group lists decides before anything wider does,
and only where it lists nothing do wider grants come in.
-/

set_option autoImplicit false

namespace Gatehouse

namespace GroupKey

/-- How far the scope is narrowed. -/
def tier (k : GroupKey) : Tier := Tier.of k.item k.itemId

/-- The request for an action on the scope. -/
def request (k : GroupKey) (action : String) : Request := ⟨k.area, k.item, k.itemId, action⟩

theorem tier_eq_whole_iff {k : GroupKey} : k.tier = .whole ↔ k.item = none := by
  rw [tier]
  cases k.item <;> cases k.itemId <;> simp [Tier.of]

/-- A scope that is narrowed to an instance is as narrow as can be. -/
theorem Proper.tier_eq_single_iff {k : GroupKey} (h : k.Proper) :
    k.tier = .single ↔ k.itemId.isSome = true := by
  rw [Proper] at h
  rw [tier]
  cases hitem : k.item <;> cases hid : k.itemId <;> simp_all [Tier.of]

/-- What covers a request on a scope is no narrower. -/
theorem rank_le_of_counts {k : GroupKey} {x : Grant} {subject : Subject} {a : String}
    (h : x.Counts subject (k.request a)) : x.tier.rank ≤ k.tier.rank := by
  have hitem : x.item = none ∨ x.item = k.item := h.item
  have hid : x.itemId = none ∨ x.itemId = k.itemId := h.itemId
  rw [Terms.tier, tier]
  rcases hitem with hitem | hitem <;> rcases hid with hid | hid <;> rw [hitem, hid] <;>
    cases k.item <;> cases k.itemId <;> simp [Tier.of, Tier.rank]

/-- What covers a request on a scope and is as narrow is in the scope. -/
theorem groupKey_eq_of_counts {k : GroupKey} {x : Grant} {subject : Subject} {a : String}
    (h : x.Counts subject (k.request a)) (hx : x.groupKey.Proper) (hk : k.Proper)
    (htier : x.groupKey.tier = k.tier) : x.groupKey = k := by
  have hitem : x.item = k.item := by
    rcases h.item with hnone | hsame
    · have hwhole : k.tier = .whole := htier ▸ tier_eq_whole_iff.2 hnone
      rw [hnone, tier_eq_whole_iff.1 hwhole]
    · exact hsame
  have hid : x.itemId = k.itemId := by
    rcases h.itemId with hnone | hsame
    · have hwide : ¬ k.itemId.isSome = true := by
        rw [← hk.tier_eq_single_iff, ← htier, hx.tier_eq_single_iff]
        simp [Terms.groupKey, hnone]
      rw [hnone, Option.not_isSome_iff_eq_none.1 hwide]
    · exact hsame
  have harea : x.area = k.area := h.area
  rw [Terms.groupKey, harea, hitem, hid]

end GroupKey

/-- What a group says of an action agrees with a decision on the scope of the group. -/
structure GrantGroup.Agrees (g : GrantGroup) (a : String) (d : Decision) : Prop where
  /-- What the role just has is allowed, by a grant of the scope. -/
  held : a ∈ g.held.map (·.action) → a ∉ g.disabled.map (·.action) →
    d = ⟨true, .allowed g.key.tier⟩
  /-- What is allowed by a grant of the scope the role has. -/
  allowed : d.reason = .allowed g.key.tier → a ∈ g.held.map (·.action)
  /-- What is denied by a grant of the scope is shown as such. -/
  denied : d.reason = .denied g.key.tier → a ∈ g.disabled.map (·.action)
  /-- On what the group does not list, at most a wider grant decides. -/
  wider : a ∉ g.held.map (·.action) → a ∉ g.disabled.map (·.action) →
    d.reason = .noMatch ∨
      ∃ tier : Tier, tier.rank < g.key.tier.rank ∧
        (d.reason = .allowed tier ∨ d.reason = .denied tier)

namespace Store

variable {s : Store} {role : Role} {g : GrantGroup} {a : String}

/-- The grant is one of the role in a scope for an action. -/
structure IsOn (s : Store) (role : Role) (k : GroupKey) (a : String) (x : Grant) : Prop where
  /-- It is in the store. -/
  mem : x ∈ s.grants
  /-- It is of the role. -/
  owner : x.owner = .role role.id
  /-- It is in the scope. -/
  scope : x.groupKey = k
  /-- It is for the action. -/
  action : x.action = a

theorem isOn_iff {k : GroupKey} {x : Grant} :
    s.IsOn role k a x ↔ x ∈ s.grantsOfRole role.id ∧ x.groupKey = k ∧ x.action = a := by
  rw [mem_grantsOfRole]
  exact ⟨fun h => ⟨⟨h.mem, h.owner⟩, h.scope, h.action⟩,
    fun ⟨⟨hx, howner⟩, hscope, haction⟩ => ⟨hx, howner, hscope, haction⟩⟩

theorem mem_held_roleExport_iff (hg : g ∈ (s.roleExport role).groups) :
    a ∈ g.held.map (·.action) ↔ ∃ x, s.IsOn role g.key a x ∧ x.gives = true := by
  simp only [RoleExport.mem_held_iff hg, isOn_iff, and_assoc]

theorem mem_disabled_roleExport_iff (hg : g ∈ (s.roleExport role).groups) :
    a ∈ g.disabled.map (·.action) ↔ ∃ x, s.IsOn role g.key a x ∧ x.gives = false := by
  simp only [RoleExport.mem_disabled_iff hg, isOn_iff, and_assoc]

/-- What counts for someone who holds just a role, on a request for a scope. -/
def deciding (s : Store) (role : Role) (k : GroupKey) (a : String) : Terms → Prop :=
  s.counting ⟨[role.id], none⟩ (k.request a)

/-- A grant of the scope that is in force counts. -/
theorem IsOn.deciding {k : GroupKey} {x : Grant} (h : s.IsOn role k a x)
    (hactive : x.active = true) : s.deciding role k a x.toTerms := by
  obtain ⟨hx, howner, rfl, haction⟩ := h
  exact ⟨x, hx, ⟨hactive, rfl, haction, .inl ⟨role.id, List.mem_singleton_self _, howner⟩,
    .inr rfl, .inr rfl⟩, rfl⟩

theorem IsOn.tier_eq {k : GroupKey} {x : Grant} (h : s.IsOn role k a x) : x.tier = k.tier := by
  rw [← h.scope]
  rfl

theorem rank_le_of_deciding {k : GroupKey} {t : Terms} (h : s.deciding role k a t) :
    t.tier.rank ≤ k.tier.rank := by
  obtain ⟨x, -, hcounts, rfl⟩ := h
  exact GroupKey.rank_le_of_counts hcounts

/-- What counts and is as narrow as the scope is a grant of the scope. -/
theorem Coherent.exists_isOn (h : s.Coherent) {k : GroupKey} (hk : k.Proper) {t : Terms}
    (ht : s.deciding role k a t) (htier : t.tier = k.tier) :
    ∃ x, s.IsOn role k a x ∧ x.active = true ∧ x.toTerms = t := by
  obtain ⟨x, hx, hcounts, rfl⟩ := ht
  refine ⟨x, ⟨hx, ?_, ?_, hcounts.action⟩, hcounts.active, rfl⟩
  · obtain ⟨id, hid, howner⟩ | ⟨id, hid, -⟩ := hcounts.owner
    · rwa [List.mem_singleton.1 hid] at howner
    · cases hid
  · exact GroupKey.groupKey_eq_of_counts hcounts (h.narrowed x hx) hk htier

section Group

variable (h : s.Coherent) (hg : g ∈ (s.roleExport role).groups)

include h hg

theorem Coherent.proper_key : g.key.Proper := by
  have hkey := List.mem_map_of_mem (f := (·.key)) hg
  rw [roleExport, RoleExport.map_key_groups] at hkey
  exact h.proper_of_mem_groupKeys hkey

/-- Terms as narrow as the scope put the action on one of the two lists. -/
theorem Coherent.mem_held {t : Terms} (ht : s.deciding role g.key a t) (htier : t.tier = g.key.tier)
    (hrule : t.rule = .allow) : a ∈ g.held.map (·.action) := by
  obtain ⟨x, hx, hactive, rfl⟩ := h.exists_isOn (h.proper_key hg) ht htier
  exact (mem_held_roleExport_iff hg).2 ⟨x, hx, Terms.gives_iff.2 ⟨hactive, hrule⟩⟩

@[inherit_doc Coherent.mem_held]
theorem Coherent.mem_disabled {t : Terms} (ht : s.deciding role g.key a t)
    (htier : t.tier = g.key.tier) (hrule : t.rule = .deny) : a ∈ g.disabled.map (·.action) := by
  obtain ⟨x, hx, -, rfl⟩ := h.exists_isOn (h.proper_key hg) ht htier
  exact (mem_disabled_roleExport_iff hg).2 ⟨x, hx, by simp [Terms.gives, hrule]⟩

/-- What counts for an action on neither list is wider than the scope. -/
theorem Coherent.rank_lt_of_isTop (hheld : a ∉ g.held.map (·.action))
    (hdisabled : a ∉ g.disabled.map (·.action)) {tier : Tier}
    (htop : tier.IsTop (s.deciding role g.key a)) : tier.rank < g.key.tier.rank := by
  obtain ⟨t, ht, rfl⟩ := htop.attained
  refine Nat.lt_of_le_of_ne (rank_le_of_deciding ht) fun hrank => ?_
  have htier : t.tier = g.key.tier := Tier.rank_injective hrank
  cases hrule : t.rule with
  | allow => exact hheld (h.mem_held hg ht htier hrule)
  | deny => exact hdisabled (h.mem_disabled hg ht htier hrule)

/-- A group agrees with the decision that follows on its scope. -/
theorem Coherent.agrees_of_follows {d : Decision}
    (hd : Decision.Follows (s.deciding role g.key a) d) : g.Agrees a d := by
  refine ⟨fun hheld hdisabled => ?_, fun hreason => ?_, fun hreason => ?_,
    fun hheld hdisabled => ?_⟩
  · obtain ⟨x, hx, hgives⟩ := (mem_held_roleExport_iff hg).1 hheld
    have htop : g.key.tier.IsTop (s.deciding role g.key a) :=
      ⟨⟨x.toTerms, hx.deciding (Terms.gives_iff.1 hgives).1, hx.tier_eq⟩,
        fun t => rank_le_of_deciding⟩
    exact hd.unique <|
      .allowed htop fun t ht htier hrule => hdisabled (h.mem_disabled hg ht htier hrule)
  · cases hd with
    | noMatch => cases hreason
    | denied => cases hreason
    | allowed top allows =>
      cases hreason
      obtain ⟨t, ht, htier⟩ := top.attained
      cases hrule : t.rule with
      | allow => exact h.mem_held hg ht htier hrule
      | deny => exact absurd hrule (allows t ht htier)
  · cases hd with
    | noMatch => cases hreason
    | allowed => cases hreason
    | denied top denies =>
      cases hreason
      obtain ⟨t, ht, htier, hrule⟩ := denies
      exact h.mem_disabled hg ht htier hrule
  · cases hd with
    | noMatch => exact .inl rfl
    | denied top => exact .inr ⟨_, h.rank_lt_of_isTop hg hheld hdisabled top, .inr rfl⟩
    | allowed top => exact .inr ⟨_, h.rank_lt_of_isTop hg hheld hdisabled top, .inl rfl⟩

end Group

end Store

/-- **What the export of a role says agrees with what someone who holds just this role may do.**
For every group of the export and every action, the decision on the scope of the group is allowed
by the scope if the group just has the action; if it is allowed by the scope, the group has the
action; if it is denied by it, the group shows the action as denied; and if the group does neither,
only wider grants decide, if any. -/
theorem exportRole_agrees_with_check (now : Stamp) {s : Store} (hs : s.Reachable) {role : Role}
    (hrole : role ∈ s.roles) :
    ∃ e, ((Backend.memory now).exportRole role.name).run s = (.ok e, s) ∧
      ∀ g ∈ e.groups, ∀ a, ∃ d,
        ((Backend.memory now).check ⟨[role.id], none⟩
          ⟨g.key.area, g.key.item, g.key.itemId, a⟩).run s = (.ok d, s) ∧ g.Agrees a d := by
  refine ⟨_, hs.coherent.run_exportRole hrole now, fun g hg a => ?_⟩
  exact ⟨_, run_check_memory now s _ _,
    hs.coherent.agrees_of_follows hg (s.follows_decision ⟨[role.id], none⟩ (g.key.request a))⟩

/-- What the export of the writers says agrees with what they may do. -/
theorem exportRole_agrees_with_check_writers :
    teams.Reachable ∧ ⟨⟨1⟩, "writers", ⟨false, false, false⟩, some newYear⟩ ∈ teams.roles ∧
      ∃ e, ((Backend.memory newYear).exportRole "writers").run teams = (.ok e, teams) ∧
        ∀ g ∈ e.groups, ∀ a, ∃ d,
          ((Backend.memory newYear).check ⟨[⟨1⟩], none⟩
            ⟨g.key.area, g.key.item, g.key.itemId, a⟩).run teams = (.ok d, teams) ∧
          g.Agrees a d := by
  have hteams : teams.Reachable := reachableInRange_teams.reachable
  have hrole : ⟨⟨1⟩, "writers", ⟨false, false, false⟩, some newYear⟩ ∈ teams.roles := by
    decide +kernel
  exact ⟨hteams, hrole, exportRole_agrees_with_check newYear hteams hrole⟩

end Gatehouse
