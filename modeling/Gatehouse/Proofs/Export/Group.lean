import Gatehouse.Export.Basic
import Gatehouse.Proofs.Store.Memory
import Gatehouse.Proofs.Store.Reachable

/-!
# The groups of an export

Which grants of a role a group of its export shows, and in which of its lists.  An action stands in
`held` if a grant of the scope gives it and in `disabled` if one of them does not
(`RoleExport.mem_held_iff`, `RoleExport.mem_disabled_iff`); it may stand in both.
-/

set_option autoImplicit false

namespace Gatehouse

/-! ## Scopes -/

theorem mem_groupKeys {grants : List Grant} {k : GroupKey} :
    k ∈ groupKeys grants ↔ ∃ g ∈ grants, g.groupKey = k := by
  have hdistinct : ∀ x ∈ grants.map (·.groupKey), ∀ y ∈ grants.map (·.groupKey),
      GroupKey.order x y = .eq → x = y := fun _ _ _ _ h => Std.LawfulEqCmp.eq_of_compare h
  rw [groupKeys, ← Table.mem_def, Table.mem_ofList_of_distinct hdistinct, List.mem_map]

theorem nodup_groupKeys (grants : List Grant) : (groupKeys grants).Nodup := Table.nodup_rows _

theorem Terms.gives_iff {t : Terms} : t.gives = true ↔ t.active = true ∧ t.rule = .allow := by
  rw [Terms.gives, Bool.and_eq_true, beq_iff_eq]

theorem mem_distinctActions {grants : List Grant} {a : String} :
    a ∈ distinctActions grants ↔ ∃ g ∈ grants, g.action = a := by
  rw [distinctActions, List.mem_eraseDups, List.mem_map]

/-- The actions of those grants in a scope that satisfy a condition. -/
theorem mem_distinctActions_filter {grants : List Grant} {k : GroupKey} {p : Grant → Bool}
    {a : String} :
    a ∈ distinctActions ((grants.filter fun x => x.groupKey == k).filter p) ↔
      ∃ x ∈ grants, x.groupKey = k ∧ x.action = a ∧ p x = true := by
  simp only [mem_distinctActions, List.mem_filter, beq_iff_eq]
  constructor
  · rintro ⟨x, ⟨⟨hx, hkey⟩, hp⟩, haction⟩
    exact ⟨x, hx, hkey, haction, hp⟩
  · rintro ⟨x, hx, hkey, haction, hp⟩
    exact ⟨x, ⟨⟨hx, hkey⟩, hp⟩, haction⟩

namespace GroupKey

theorem map_action_mark (k : GroupKey) (actions : List String) :
    (k.mark actions).map (·.action) = actions := by
  rw [mark, List.map_map]
  exact List.map_id actions

/-- An instance comes with an item. -/
def Proper (k : GroupKey) : Prop := k.itemId.isSome = true → k.item.isSome = true

theorem itemId_eq_none {k : GroupKey} (h : k.Proper) (hitem : k.item = none) : k.itemId = none := by
  rw [Proper, hitem] at h
  exact Option.eq_none_iff_forall_ne_some.2 fun id hid => by simp [hid] at h

end GroupKey

namespace RoleExport

variable {role : Role} {grants : List Grant} {g : GrantGroup} {a : String}

theorem map_key_groups (role : Role) (grants : List Grant) :
    (RoleExport.of role grants).groups.map (·.key) = groupKeys grants := by
  rw [RoleExport.of, List.map_map]
  exact List.map_id _

/-- A group shows the grants in its scope. -/
theorem eq_group_of_mem (h : g ∈ (RoleExport.of role grants).groups) :
    g = g.key.group (grants.filter fun x => x.groupKey == g.key) := by
  obtain ⟨k, -, rfl⟩ := List.mem_map.1 h
  rfl

/-- A group has the actions that some grant in its scope gives. -/
theorem mem_held_iff (h : g ∈ (RoleExport.of role grants).groups) :
    a ∈ g.held.map (·.action) ↔
      ∃ x ∈ grants, x.groupKey = g.key ∧ x.action = a ∧ x.gives = true := by
  rw [eq_group_of_mem h, GroupKey.group, GroupKey.map_action_mark, mem_distinctActions_filter]

/-- A group lacks the actions that some grant in its scope denies or, not being in force, withholds.
-/
theorem mem_disabled_iff (h : g ∈ (RoleExport.of role grants).groups) :
    a ∈ g.disabled.map (·.action) ↔
      ∃ x ∈ grants, x.groupKey = g.key ∧ x.action = a ∧ x.gives = false := by
  rw [eq_group_of_mem h, GroupKey.group, GroupKey.map_action_mark, mem_distinctActions_filter]
  simp only [Bool.not_eq_true']

end RoleExport

/-! ## The export of a role on the store -/

namespace Store

variable {s : Store} {role : Role}

/-- The export of a role of the store. -/
def roleExport (s : Store) (role : Role) : RoleExport := .of role (s.grantsOfRole role.id)

/-- A role that is there is exported, and the store is left as it is. -/
theorem Coherent.run_exportRole (h : s.Coherent) (hrole : role ∈ s.roles) (now : Stamp) :
    ((Backend.memory now).exportRole role.name).run s = (.ok (s.roleExport role), s) := by
  have hfound : s.roleNamed? role.name = some role := h.roleNamed?_eq_some_iff.2 ⟨hrole, rfl⟩
  rw [Backend.exportRole, Action.run_bind_of_ok (Backend.run_roleNamed_memory now s role.name),
    Action.run_bind_of_ok (Action.run_require_eq_ok_iff.2 ⟨hfound, rfl⟩),
    Action.run_bind_of_ok (Backend.run_grantsOfRole_memory now s role.id), Action.run_pure,
    roleExport]

theorem Coherent.run_exportText (h : s.Coherent) (hrole : role ∈ s.roles) (now : Stamp)
    (format : ExportFormat) :
    ((Backend.memory now).exportText role.name format).run s =
      (.ok ((s.roleExport role).render format), s) := by
  rw [Backend.exportText, Action.run_bind_of_ok (h.run_exportRole hrole now), Action.run_pure]

/-- A scope is in the export of a role if a grant of the role is in it. -/
theorem mem_groupKeys_grantsOfRole {k : GroupKey} :
    k ∈ groupKeys (s.grantsOfRole role.id) ↔
      ∃ g ∈ s.grants, g.owner = .role role.id ∧ g.groupKey = k := by
  simp only [mem_groupKeys, mem_grantsOfRole, and_assoc]

theorem Coherent.proper_of_mem_groupKeys {s : Store} (h : s.Coherent) {role : Role} {k : GroupKey}
    (hk : k ∈ groupKeys (s.grantsOfRole role.id)) : k.Proper := by
  obtain ⟨g, hg, -, rfl⟩ := mem_groupKeys_grantsOfRole.1 hk
  exact h.narrowed g hg

end Store

end Gatehouse
