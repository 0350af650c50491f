import Gatehouse.Proofs.Export.Group
import Mathlib.Data.List.Induction

/-!
# What an export tells about a list of grants

The export of a role is built from a list of grants in any order and with any repetitions.  It has
a group for each scope that a grant is in, scopes in order (`GroupKey.Before`), and each group tells
apart what is given in its scope, what is withheld there and what could still be granted
(`GrantGroup.Classifies`).

Actions are listed in the order in which the grants first mention them (`FirstOccurrences`).
-/

set_option autoImplicit false

namespace Gatehouse

open Std

/-! ## First occurrences -/

/-- The second list has each entry of the first one once, in the order in which the first one has
them for the first time. -/
structure FirstOccurrences {α : Type} [BEq α] (xs ys : List α) : Prop where
  /-- The lists have the same entries. -/
  mem_iff : ∀ a, a ∈ ys ↔ a ∈ xs
  /-- Entries are listed by the place of their first occurrence, so none is listed twice. -/
  order : ys.Pairwise fun a b => xs.idxOf a < xs.idxOf b

section

variable {α : Type} [BEq α] [LawfulBEq α]

/-- An entry at the end is listed at the end, unless it is there already. -/
theorem eraseDups_concat (xs : List α) (x : α) :
    (xs ++ [x]).eraseDups = if x ∈ xs then xs.eraseDups else xs.eraseDups ++ [x] := by
  rw [List.eraseDups_append]
  split
  · rename_i hx
    have hnone : [x].removeAll xs = [] := by simp [List.removeAll, hx]
    rw [hnone, List.eraseDups_nil, List.append_nil]
  · rename_i hx
    have hkept : [x].removeAll xs = [x] := by simp [List.removeAll, hx]
    rw [hkept, List.eraseDups_cons, List.filter_nil, List.eraseDups_nil]

theorem firstOccurrences_eraseDups (xs : List α) : FirstOccurrences xs xs.eraseDups where
  mem_iff a := List.mem_eraseDups
  order := by
    induction xs using List.reverseRecOn with
    | nil => exact .nil
    | append_singleton xs x ih =>
      -- The entry at the end leaves first occurrences before it where they are.
      have hbefore : ∀ a ∈ xs, (xs ++ [x]).idxOf a = xs.idxOf a := fun a ha => by
        rw [List.idxOf_append, if_pos ha]
      have hxs : xs.eraseDups.Pairwise fun a b => (xs ++ [x]).idxOf a < (xs ++ [x]).idxOf b := by
        refine ih.imp_of_mem fun ha hb hlt => ?_
        rwa [hbefore _ (List.mem_eraseDups.1 ha), hbefore _ (List.mem_eraseDups.1 hb)]
      rw [eraseDups_concat]
      split
      · exact hxs
      · rename_i hx
        refine List.pairwise_append.2 ⟨hxs, List.pairwise_singleton _ _, fun a ha b hb => ?_⟩
        have hmem := List.mem_eraseDups.1 ha
        have hlast : (xs ++ [x]).idxOf x = xs.length := by
          rw [List.idxOf_append, if_neg hx, List.idxOf_cons_self, Nat.zero_add]
        rw [List.mem_singleton.1 hb, hlast, hbefore a hmem]
        exact List.idxOf_lt_length_of_mem hmem

/-- What is in order is still in order when each entry is listed once. -/
theorem FirstOccurrences.ascending {cmp : α → α → Ordering} [TransCmp cmp] [LawfulEqCmp cmp]
    {xs ys : List α} (h : FirstOccurrences xs ys) (hxs : xs.Pairwise fun a b => (cmp a b).isLE) :
    Ascending cmp ys := by
  refine h.order.imp_of_mem fun {a b} ha hb hlt => ?_
  have hle : (cmp a b).isLE = true := by
    have hplaces := List.pairwise_iff_getElem.1 hxs _ _
      (List.idxOf_lt_length_of_mem ((h.mem_iff a).1 ha))
      (List.idxOf_lt_length_of_mem ((h.mem_iff b).1 hb)) hlt
    rwa [List.getElem_idxOf, List.getElem_idxOf] at hplaces
  have hne : cmp a b ≠ .eq := fun heq => by
    rw [LawfulEqCmp.eq_of_compare heq] at hlt
    exact Nat.lt_irrefl _ hlt
  cases hcmp : cmp a b with
  | lt => rfl
  | eq => exact absurd hcmp hne
  | gt => rw [hcmp] at hle; cases hle

end

/-! ## The order of scopes -/

/-- A scope comes before another one: by its section, then its item, then its instance.  A part that
is unset comes before any that is set. -/
inductive GroupKey.Before (k l : GroupKey) : Prop
  /-- The sections tell them apart, -/
  | area : k.area < l.area → k.Before l
  /-- or in one section the items, -/
  | item : k.area = l.area → k.item < l.item → k.Before l
  /-- or for one item the instances. -/
  | itemId : k.area = l.area → k.item = l.item → k.itemId < l.itemId → k.Before l

theorem compare_option_eq_lt_iff {α : Type} [Ord α] [LT α]
    (h : ∀ x y : α, compare x y = .lt ↔ x < y) {a b : Option α} : compare a b = .lt ↔ a < b :=
  match a, b with
  | none, none => iff_of_false nofun nofun
  | none, some _ => iff_of_true rfl trivial
  | some _, none => iff_of_false nofun nofun
  | some x, some y => h x y

theorem compare_string_eq_lt_iff {s t : String} : compare s t = .lt ↔ s < t :=
  compareOfLessAndEq_eq_lt

theorem GroupKey.order_eq_lt_iff {k l : GroupKey} : k.order l = .lt ↔ k.Before l := by
  simp only [order, compareLex, compareOn, Ordering.then_eq_lt, LawfulEqCmp.compare_eq_iff_eq,
    compare_string_eq_lt_iff, compare_option_eq_lt_iff fun s t => compare_string_eq_lt_iff,
    compare_option_eq_lt_iff fun x y : Int32 => compare_eq_lt]
  constructor
  · rintro (h | ⟨harea, h | ⟨hitem, h⟩⟩)
    · exact .area h
    · exact .item harea h
    · exact .itemId harea hitem h
  · rintro (h | ⟨harea, h⟩ | ⟨harea, hitem, h⟩)
    · exact .inl h
    · exact .inr ⟨harea, .inl h⟩
    · exact .inr ⟨harea, .inr ⟨hitem, h⟩⟩

/-! ## Groups -/

/-- A known permission is about a scope; a scope without an item is the whole section. -/
def Permission.About (p : Permission) (k : GroupKey) : Prop :=
  p.area = k.area ∧ p.item = k.item.getD ""

instance (p : Permission) (k : GroupKey) : Decidable (p.About k) :=
  inferInstanceAs (Decidable (_ ∧ _))

theorem Permission.isOn_iff {p : Permission} {k : GroupKey} :
    p.isOn k.area k.item = true ↔ p.About k := by
  rw [isOn, Bool.and_eq_true, beq_iff_eq, beq_iff_eq, About]

/-- What a group tells about the grants in its scope. -/
structure GrantGroup.Classifies (g : GrantGroup) (grants : List Grant) : Prop where
  /-- The actions held are those that grants in force allow, -/
  held : FirstOccurrences
    ((grants.filter fun x => x.groupKey = g.key ∧ x.active = true ∧ x.rule = .allow).map (·.action))
    (g.held.map (·.action))
  /-- the disabled ones are those of grants that deny or are not in force, -/
  disabled : FirstOccurrences
    ((grants.filter fun x => x.groupKey = g.key ∧ ¬(x.active = true ∧ x.rule = .allow)).map
      (·.action))
    (g.disabled.map (·.action))
  /-- and available are the other ones that are known, in the order of the list of permissions. -/
  available : g.available.map (·.action) =
    ((Permission.all.filter fun p => p.About g.key).map (·.action)).filter fun a =>
      a ∉ g.held.map (·.action) ∧ a ∉ g.disabled.map (·.action)
  /-- An action is marked if it is not known in the scope, -/
  marks : ∀ a ∈ g.held ++ g.disabled ++ g.available, a.unsupported = true ↔
    ¬∃ p ∈ Permission.all, p.About g.key ∧ p.action = a.action
  /-- and the group is marked if no action is. -/
  mark : g.unsupported = true ↔ ¬∃ p ∈ Permission.all, p.About g.key

/-- Nothing is available in a group that is marked, and all its actions are marked. -/
theorem GrantGroup.Classifies.of_unsupported {g : GrantGroup} {grants : List Grant}
    (h : g.Classifies grants) (hg : g.unsupported = true) :
    g.available = [] ∧ ∀ a ∈ g.held ++ g.disabled, a.unsupported = true := by
  have hnone := h.mark.1 hg
  constructor
  · have hknown : Permission.all.filter (fun p => p.About g.key) = [] :=
      List.filter_eq_nil_iff.2 fun p hp hk => hnone ⟨p, hp, of_decide_eq_true hk⟩
    have havailable := h.available
    rw [hknown] at havailable
    exact List.map_eq_nil_iff.1 havailable
  · intro a ha
    exact (h.marks a (List.mem_append_left _ ha)).2 fun ⟨p, hp, hk, _⟩ => hnone ⟨p, hp, hk⟩

/-- A condition on the grants in a scope is a condition on all grants. -/
theorem filter_groupKey (grants : List Grant) (k : GroupKey) (p : Grant → Bool) :
    (grants.filter fun x => x.groupKey == k).filter p =
      grants.filter fun x => x.groupKey = k ∧ p x = true := by
  rw [List.filter_filter]
  refine List.filter_congr fun x _ => ?_
  rw [Bool.eq_iff_iff, Bool.and_eq_true, beq_iff_eq, decide_eq_true_iff, and_comm]

theorem Permission.mem_actionsOn_iff {k : GroupKey} {action : String} :
    action ∈ Permission.actionsOn k.area k.item ↔ ∃ p ∈ all, p.About k ∧ p.action = action := by
  simp only [actionsOn, List.mem_map, List.mem_filter, isOn_iff, and_assoc]

theorem Permission.knowsItem_iff_exists {k : GroupKey} :
    Permission.knowsItem k.area k.item = true ↔ ∃ p ∈ all, p.About k := by
  simp only [knowsItem, List.any_eq_true, isOn_iff]

namespace GroupKey

variable {k : GroupKey} {grants : List Grant}

theorem map_action_held :
    (k.group grants).held.map (·.action) = distinctActions (grants.filter (·.gives)) :=
  map_action_mark k _

theorem map_action_disabled :
    (k.group grants).disabled.map (·.action) = distinctActions (grants.filter (!·.gives)) :=
  map_action_mark k _

theorem map_action_available :
    (k.group grants).available.map (·.action) =
      (Permission.actionsOn k.area k.item).filter fun a =>
        a ∉ (k.group grants).held.map (·.action) ∧
          a ∉ (k.group grants).disabled.map (·.action) := by
  rw [map_action_held, map_action_disabled, group, List.map_map]
  refine (List.map_id _).trans (List.filter_congr fun a _ => ?_)
  rw [Bool.decide_and]

theorem unsupported_iff_of_mem_mark {actions : List String} {a : ExportAction}
    (ha : a ∈ k.mark actions) :
    a.unsupported = true ↔ ¬a.action ∈ Permission.actionsOn k.area k.item := by
  obtain ⟨action, -, rfl⟩ := List.mem_map.1 ha
  rw [Permission.mem_actionsOn, Bool.not_eq_true', Bool.not_eq_true]

/-- An action is marked if it is not known; what is available is known. -/
theorem unsupported_iff {a : ExportAction}
    (ha : a ∈ (k.group grants).held ++ (k.group grants).disabled ++ (k.group grants).available) :
    a.unsupported = true ↔ ¬a.action ∈ Permission.actionsOn k.area k.item := by
  rcases List.mem_append.1 ha with ha | ha
  · rcases List.mem_append.1 ha with ha | ha
    · exact unsupported_iff_of_mem_mark ha
    · exact unsupported_iff_of_mem_mark ha
  · have hknown : a.action ∈ Permission.actionsOn k.area k.item := by
      have hmem := List.mem_map_of_mem (f := (·.action)) ha
      rw [map_action_available] at hmem
      exact (List.mem_filter.1 hmem).1
    obtain ⟨action, -, rfl⟩ := List.mem_map.1 ha
    exact iff_of_false Bool.false_ne_true (not_not_intro hknown)

/-- The group that is made of the grants in a scope classifies them. -/
theorem group_classifies (k : GroupKey) (grants : List Grant) :
    (k.group (grants.filter fun x => x.groupKey == k)).Classifies grants where
  held := by
    rw [map_action_held, filter_groupKey]
    simp only [Terms.gives_iff]
    exact firstOccurrences_eraseDups _
  disabled := by
    rw [map_action_disabled, filter_groupKey]
    simp only [Bool.not_eq_true', ← Bool.not_eq_true, Terms.gives_iff]
    exact firstOccurrences_eraseDups _
  available := by
    have hknown : Permission.actionsOn k.area k.item =
        (Permission.all.filter fun p => p.About k).map (·.action) :=
      congrArg (List.map _) <| List.filter_congr fun p _ => by
        rw [Bool.eq_iff_iff, Permission.isOn_iff, decide_eq_true_iff]
    exact map_action_available.trans (by rw [hknown]; rfl)
  marks a ha := by rw [unsupported_iff ha, Permission.mem_actionsOn_iff]; rfl
  mark := by
    have hmark : (k.group (grants.filter fun x => x.groupKey == k)).unsupported =
        !Permission.knowsItem k.area k.item := rfl
    rw [hmark, Bool.not_eq_true', ← Bool.not_eq_true, Permission.knowsItem_iff_exists]
    rfl

end GroupKey

/-- **An export classifies every grant.** -/
theorem export_classifies (role : Role) (grants : List Grant) :
    let groups := (RoleExport.of role grants).groups
    groups.Pairwise (fun g h => g.key.Before h.key) ∧
    (∀ k, (∃ g ∈ groups, g.key = k) ↔ ∃ x ∈ grants, x.groupKey = k) ∧
    ∀ g ∈ groups, g.Classifies grants ∧
      (g.unsupported = true →
        g.available = [] ∧ ∀ a ∈ g.held ++ g.disabled, a.unsupported = true) := by
  intro groups
  have hkeys : groups.map (·.key) = groupKeys grants := RoleExport.map_key_groups role grants
  refine ⟨?_, fun k => ?_, fun g hg => ?_⟩
  · have hascending : Ascending GroupKey.order (groups.map (·.key)) :=
      hkeys ▸ Table.ascending _
    exact (List.pairwise_map.1 hascending).imp GroupKey.order_eq_lt_iff.1
  · rw [← mem_groupKeys, ← hkeys, List.mem_map]
  · have hclassifies : g.Classifies grants := by
      rw [RoleExport.eq_group_of_mem hg]
      exact g.key.group_classifies grants
    exact ⟨hclassifies, hclassifies.of_unsupported⟩

end Gatehouse
