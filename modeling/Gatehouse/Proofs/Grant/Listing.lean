import Gatehouse.Proofs.Check
import Gatehouse.Proofs.Export.Classification
import Gatehouse.Proofs.Grant.Purge
import Mathlib.Data.List.Dedup

/-!
# Listings of grants

Grants are listed by owner, by scope, and by what counts for a request.  A listing has the grants it
is about, each once, in the order `Grant.Before` (`Listing`); only the one by scope is by identity.
The listings by owner divide the stored grants among them, and what counts for a request is what
covers it in the listings of the subject's owners, a role that the subject names twice counted once.

Nothing here is about how a store arises: a table has each identity once, and as the order ends with
the identity it puts any two stored grants one before the other (`Store.ascending_grantsWhere`).
-/

set_option autoImplicit false

namespace Gatehouse

open Std

/-! ## The order -/

/-- A grant comes before another one: by its scope, then its action, then its identity. -/
inductive Grant.Before (g g' : Grant) : Prop
  /-- The scopes tell them apart, -/
  | scope : g.groupKey.Before g'.groupKey → g.Before g'
  /-- or in one scope the actions, -/
  | action : g.groupKey = g'.groupKey → g.action < g'.action → g.Before g'
  /-- or for one action the identities. -/
  | id : g.groupKey = g'.groupKey → g.action = g'.action → g.id.value < g'.id.value → g.Before g'

theorem Grant.listing_eq_lt_iff {g g' : Grant} : g.listing g' = .lt ↔ g.Before g' := by
  have hlisting : g.listing g' = (g.groupKey.order g'.groupKey).then
      ((compare g.action g'.action).then (compare g.id g'.id)) := by
    simp only [listing, GroupKey.order, compareLex, compareOn, Ordering.then_assoc, Terms.groupKey]
  simp only [hlisting, Ordering.then_eq_lt, GroupKey.order_eq_lt_iff, LawfulEqCmp.compare_eq_iff_eq,
    compare_string_eq_lt_iff, GrantId.compare_eq_lt_iff]
  constructor
  · rintro (h | ⟨hkey, h | ⟨haction, h⟩⟩)
    · exact .scope h
    · exact .action hkey h
    · exact .id hkey haction h
  · rintro (h | ⟨hkey, h⟩ | ⟨hkey, haction, h⟩)
    · exact .inl h
    · exact .inr ⟨hkey, .inl h⟩
    · exact .inr ⟨hkey, .inr ⟨haction, h⟩⟩

/-- What is said by a listing of the stored grants with a property. -/
structure Listing (s : Store) (P : Grant → Prop) (gs : List Grant) : Prop where
  /-- Every grant comes before the later ones, so none comes twice. -/
  order : gs.Pairwise Grant.Before
  /-- The grants listed are the stored ones with the property. -/
  mem_iff : ∀ g, g ∈ gs ↔ g ∈ s.grants ∧ P g

theorem Listing.nodup {s : Store} {P : Grant → Prop} {gs : List Grant} (h : Listing s P gs) :
    gs.Nodup :=
  Ascending.nodup (h.order.imp Grant.listing_eq_lt_iff.2)

namespace Store

variable {s : Store}

theorem ascending_grantsWhere (s : Store) (p : Grant → Bool) :
    Ascending Grant.listing (s.grantsWhere p) := by
  refine ascending_sortBy_of_distinct ((Table.nodup_rows s.grants).filter p) fun g hg g' hg' h => ?_
  have hid : g.id = g'.id := by
    simp only [Grant.listing, compareLex_eq_eq, compareOn, LawfulEqCmp.compare_eq_iff_eq] at h
    exact h.2.2.2.2
  exact Table.eq_of_mem (List.mem_filter.1 hg).1 (List.mem_filter.1 hg').1
    (byId_grant_eq_iff.2 hid)

theorem listing_grantsWhere {p : Grant → Bool} {P : Grant → Prop} (h : ∀ g, p g = true ↔ P g) :
    Listing s P (s.grantsWhere p) where
  order := (s.ascending_grantsWhere p).imp Grant.listing_eq_lt_iff.1
  mem_iff g := by rw [mem_grantsWhere, h]

end Store

/-! ## Listings by owner -/

/-- The call that lists the grants of an owner. -/
def Backend.grantsOf {σ τ : Type} (b : Backend σ τ) : Owner → Action σ (List Grant)
  | .role id => b.grantsOfRole id
  | .user id => b.grantsOfUser id

namespace Store

variable {s : Store} {g : Grant} {o : Owner}

/-- The grants of an owner, as listed. -/
def grantsOf (s : Store) : Owner → List Grant
  | .role id => s.grantsOfRole id
  | .user id => s.grantsOfUser id

theorem run_grantsOf_memory (now : Stamp) (s : Store) (o : Owner) :
    ((Backend.memory now).grantsOf o).run s = (.ok (s.grantsOf o), s) := by
  cases o <;> rfl

theorem listing_grantsOf (s : Store) (o : Owner) : Listing s (·.owner = o) (s.grantsOf o) := by
  cases o with
  | role id => exact listing_grantsWhere fun g => owner_role?_beq_iff
  | user id =>
    refine listing_grantsWhere fun g => ?_
    cases g.owner <;> simp [Owner.user?]

theorem mem_grantsOf : g ∈ s.grantsOf o ↔ g ∈ s.grants ∧ g.owner = o :=
  (s.listing_grantsOf o).mem_iff g

theorem nodup_grantsOf (s : Store) (o : Owner) : (s.grantsOf o).Nodup :=
  (s.listing_grantsOf o).nodup

/-- A stored grant comes once in the listing of its owner and in no other one. -/
theorem count_grantsOf (hg : g ∈ s.grants) :
    (s.grantsOf o).count g = if g.owner = o then 1 else 0 := by
  split
  · rename_i howner
    exact List.count_eq_one_of_mem (s.nodup_grantsOf o) (mem_grantsOf.2 ⟨hg, howner⟩)
  · rename_i howner
    exact List.count_eq_zero.2 fun hmem => howner (mem_grantsOf.1 hmem).2

/-- The listings of different owners have no grant in common. -/
theorem nodup_flatMap_grantsOf {owners : List Owner} (h : owners.Nodup) :
    (owners.flatMap s.grantsOf).Nodup := by
  refine List.nodup_flatMap.2 ⟨fun o _ => s.nodup_grantsOf o, h.imp fun {o o'} hne => ?_⟩
  intro g hg hg'
  exact hne ((mem_grantsOf.1 hg).2.symm.trans (mem_grantsOf.1 hg').2)

/-- Owners among whom all owners of grants are divide the stored grants among them. -/
theorem flatMap_grantsOf_perm {owners : List Owner} (h : owners.Nodup)
    (hall : ∀ g ∈ s.grants, g.owner ∈ owners) :
    (owners.flatMap s.grantsOf).Perm s.grants.rows := by
  refine (List.perm_ext_iff_of_nodup (nodup_flatMap_grantsOf h) (Table.nodup_rows _)).2 fun g => ?_
  simp only [List.mem_flatMap, mem_grantsOf]
  constructor
  · rintro ⟨o, -, hg, -⟩
    exact hg
  · exact fun hg => ⟨g.owner, hall g hg, hg, rfl⟩

end Store

/-! ## Listings by scope -/

/-- The terms agree with every part that the scope sets. -/
structure Scope.Agrees (f : Scope) (t : Terms) : Prop where
  /-- The section, -/
  area : ∀ area, f.area = some area → t.area = area
  /-- the item, -/
  item : ∀ item, f.item = some item → t.item = some item
  /-- and the instance. -/
  itemId : ∀ id, f.itemId = some id → t.itemId = some id

theorem Scope.meets_iff {f : Scope} {t : Terms} : f.meets t = true ↔ f.Agrees t := by
  obtain ⟨area, item, itemId⟩ := f
  have hagrees : Scope.Agrees ⟨area, item, itemId⟩ t ↔ (∀ a, area = some a → t.area = a) ∧
      (∀ i, item = some i → t.item = some i) ∧ ∀ n, itemId = some n → t.itemId = some n :=
    ⟨fun h => ⟨h.area, h.item, h.itemId⟩, fun h => ⟨h.1, h.2.1, h.2.2⟩⟩
  rw [hagrees, meets]
  cases area <;> cases item <;> cases itemId <;> simp [and_assoc, @eq_comm _ t.area]

theorem Store.pairwise_grantsIn (s : Store) (scope : Scope) :
    (s.grantsIn scope).Pairwise fun g g' => g.id.value < g'.id.value :=
  (List.pairwise_map.1 (ascending_grantsIn s scope)).imp GrantId.compare_eq_lt_iff.1

/-! ## Listings for a request -/

/-- The owners whose grants are the subject's, each once. -/
def Subject.owners (subject : Subject) : List Owner :=
  (subject.roles.map Owner.role ++ subject.user.toList.map Owner.user).dedup

theorem Subject.mem_owners {subject : Subject} {o : Owner} :
    o ∈ subject.owners ↔ o.isOf subject = true := by
  simp only [Owner.isOf_iff, owners, List.mem_dedup, List.mem_append, List.mem_map,
    Option.mem_toList, @eq_comm _ o]

namespace Store

theorem listing_grantsFor (s : Store) (subject : Subject) (q : Request) :
    Listing s (·.Counts subject q) (s.grantsFor subject q) :=
  listing_grantsWhere fun _ => Grant.counts_iff

/-- What counts is what covers the request in the listings of the owners. -/
theorem grantsFor_perm (s : Store) (subject : Subject) (q : Request) :
    (s.grantsFor subject q).Perm ((subject.owners.flatMap s.grantsOf).filter (·.covers q)) := by
  have howners : (subject.owners.flatMap s.grantsOf).Nodup :=
    nodup_flatMap_grantsOf (List.nodup_dedup _)
  refine (List.perm_ext_iff_of_nodup (s.listing_grantsFor subject q).nodup
    (howners.filter _)).2 fun g => ?_
  rw [(s.listing_grantsFor subject q).mem_iff, ← Grant.counts_iff, Bool.and_eq_true]
  simp only [List.mem_filter, List.mem_flatMap, Subject.mem_owners, mem_grantsOf, Grant.heldBy]
  constructor
  · rintro ⟨hg, hheld, hcovers⟩
    exact ⟨⟨g.owner, hheld, hg, rfl⟩, hcovers⟩
  · rintro ⟨⟨o, hheld, hg, rfl⟩, hcovers⟩
    exact ⟨hg, hheld, hcovers⟩

end Store

/-! ## All listings -/

/-- What the listings of the grants in a store tell about them. -/
structure Store.GrantsListed (now : Stamp) (s : Store) : Prop where
  /-- The listing of an owner has all grants of this owner. -/
  ofOwner : ∀ o, ((Backend.memory now).grantsOf o).run s = (.ok (s.grantsOf o), s) ∧
    Listing s (·.owner = o) (s.grantsOf o)
  /-- A stored grant is in one of these listings, once, and in no other one; -/
  once : ∀ g ∈ s.grants, ∀ o, (s.grantsOf o).count g = if g.owner = o then 1 else 0
  /-- so together they are all that is stored. -/
  divided : ∀ owners : List Owner, owners.Nodup → (∀ g ∈ s.grants, g.owner ∈ owners) →
    (owners.flatMap s.grantsOf).Perm s.grants.rows
  /-- The listing of a scope is by identity and has all grants that agree with the scope. -/
  inScope : ∀ scope, ∃ gs, ((Backend.memory now).grantsIn scope).run s = (.ok gs, s) ∧
    gs.Pairwise (fun g g' => g.id.value < g'.id.value) ∧
    ∀ g, g ∈ gs ↔ g ∈ s.grants ∧ scope.Agrees g.toTerms
  /-- The listing for a request has all grants that count; they are what covers the request in the
  listings of the different owners whose grants are the subject's. -/
  forRequest : ∀ subject q, ∃ gs,
    ((Backend.memory now).grantsFor subject q).run s = (.ok gs, s) ∧
    Listing s (·.Counts subject q) gs ∧
    gs.Perm ((subject.owners.flatMap s.grantsOf).filter (·.covers q))

/-- **Listings of grants are exact and in order, and those of the owners divide the stored grants
among them.** -/
theorem grants_are_listed_exactly (now : Stamp) (s : Store) : s.GrantsListed now where
  ofOwner o := ⟨s.run_grantsOf_memory now o, s.listing_grantsOf o⟩
  once _ hg _ := Store.count_grantsOf hg
  divided _ := Store.flatMap_grantsOf_perm
  inScope scope := by
    refine ⟨s.grantsIn scope, rfl, s.pairwise_grantsIn scope, fun g => ?_⟩
    rw [mem_grantsIn, Scope.meets_iff]
  forRequest subject q :=
    ⟨s.grantsFor subject q, Backend.run_grantsFor_memory now s subject q,
      s.listing_grantsFor subject q, s.grantsFor_perm subject q⟩

/-- Two grants of the writers count for seeing drafts, also if the writers are named twice. -/
example : (teams.grantsFor ⟨[⟨1⟩, ⟨1⟩], none⟩ ⟨"news", some "draft", none, "see"⟩).map (·.id) =
    [⟨1⟩, ⟨2⟩] := by
  decide +kernel

end Gatehouse
