/-!
# Arranging lists

Everything this library shows to its users comes in a fixed order: roles by name, grants by scope,
differences by signature.  The order is always given as a comparison `cmp`, usually built with
`compareLex` and `compareOn`, and this module puts a list into it.

* `sortBy cmp xs` is a stable insertion sort.  It recurses on the list itself, so that it computes
  on closed terms, and the two facts about it are `sortBy_perm` (nothing is lost or made up) and
  `pairwise_sortBy` (the result is in order).
* `putBy cmp x xs` places `x` in a strictly ascending list and replaces the entry that compares
  equal to it, which is what a table keyed by part of its rows does on a write.
-/

set_option autoImplicit false

namespace Gatehouse

open Std

variable {α : Type}

/-! ## Sorting -/

/-- Places `x` before the first entry that does not come strictly before it, so that `x` precedes
the entries equal to it. -/
def insertBy (cmp : α → α → Ordering) (x : α) : List α → List α
  | [] => [x]
  | y :: ys => if cmp y x = .lt then y :: insertBy cmp x ys else x :: y :: ys

/-- The entries of a list in ascending order; equal entries keep their order. -/
def sortBy (cmp : α → α → Ordering) (xs : List α) : List α :=
  xs.foldr (insertBy cmp) []

theorem insertBy_perm (cmp : α → α → Ordering) (x : α) (xs : List α) :
    (insertBy cmp x xs).Perm (x :: xs) := by
  induction xs with
  | nil => exact .refl _
  | cons y ys ih =>
    rw [insertBy]
    split
    · exact (ih.cons y).trans (.swap x y ys)
    · exact .refl _

/-- Sorting loses nothing and makes nothing up. -/
theorem sortBy_perm (cmp : α → α → Ordering) (xs : List α) : (sortBy cmp xs).Perm xs := by
  induction xs with
  | nil => exact .refl _
  | cons x xs ih => exact (insertBy_perm cmp x _).trans (ih.cons x)

@[simp] theorem mem_sortBy (cmp : α → α → Ordering) (xs : List α) (a : α) :
    a ∈ sortBy cmp xs ↔ a ∈ xs :=
  (sortBy_perm cmp xs).mem_iff

theorem pairwise_insertBy (cmp : α → α → Ordering) [TransCmp cmp] (x : α) {xs : List α}
    (h : xs.Pairwise fun a b => (cmp a b).isLE) :
    (insertBy cmp x xs).Pairwise fun a b => (cmp a b).isLE := by
  induction xs with
  | nil => simp [insertBy]
  | cons y ys ih =>
    rw [List.pairwise_cons] at h
    rw [insertBy]
    split
    · rename_i hyx
      refine List.pairwise_cons.2 ⟨fun b hb => ?_, ih h.2⟩
      rcases List.mem_cons.1 ((insertBy_perm cmp x ys).mem_iff.1 hb) with rfl | hb
      · simp [hyx]
      · exact h.1 b hb
    · rename_i hyx
      have hxy : (cmp x y).isLE := by
        have hswap : cmp x y = (cmp y x).swap := OrientedCmp.eq_swap
        rw [hswap, Ordering.isLE_swap]
        cases hc : cmp y x <;> simp_all
      refine List.pairwise_cons.2 ⟨fun b hb => ?_, List.pairwise_cons.2 h⟩
      rcases List.mem_cons.1 hb with rfl | hb
      · exact hxy
      · exact TransCmp.isLE_trans hxy (h.1 b hb)

/-- Sorting puts the entries in ascending order. -/
theorem pairwise_sortBy (cmp : α → α → Ordering) [TransCmp cmp] (xs : List α) :
    (sortBy cmp xs).Pairwise fun a b => (cmp a b).isLE := by
  induction xs with
  | nil => exact .nil
  | cons x xs ih => exact pairwise_insertBy cmp x ih

/-! ## Strictly ascending lists -/

/-- The entries come in strictly ascending order. -/
def Ascending (cmp : α → α → Ordering) (xs : List α) : Prop :=
  xs.Pairwise fun a b => cmp a b = .lt

/-- Places `x` in a strictly ascending list; an entry that compares equal to `x` is replaced. -/
def putBy (cmp : α → α → Ordering) (x : α) : List α → List α
  | [] => [x]
  | y :: ys =>
    match cmp x y with
    | .lt => x :: y :: ys
    | .eq => x :: ys
    | .gt => y :: putBy cmp x ys

theorem mem_of_mem_putBy {cmp : α → α → Ordering} {x a : α} {xs : List α}
    (h : a ∈ putBy cmp x xs) : a = x ∨ a ∈ xs := by
  induction xs with
  | nil => simpa [putBy] using h
  | cons y ys ih =>
    rw [putBy] at h
    split at h <;> simp only [List.mem_cons] at h ⊢
    · exact h
    · exact h.imp_right .inr
    · exact h.elim (fun h => .inr (.inl h)) fun h => (ih h).imp_right .inr

/-- Placing an entry keeps a strictly ascending list strictly ascending. -/
theorem Ascending.putBy {cmp : α → α → Ordering} [TransCmp cmp] (x : α) {xs : List α}
    (h : Ascending cmp xs) : Ascending cmp (putBy cmp x xs) := by
  induction xs with
  | nil => simp [Gatehouse.putBy, Ascending]
  | cons y ys ih =>
    obtain ⟨hy, hys⟩ := List.pairwise_cons.1 h
    rw [Gatehouse.putBy]
    split
    · rename_i hxy
      refine List.pairwise_cons.2 ⟨fun b hb => ?_, h⟩
      rcases List.mem_cons.1 hb with rfl | hb
      · exact hxy
      · exact TransCmp.lt_trans hxy (hy b hb)
    · rename_i hxy
      exact List.pairwise_cons.2
        ⟨fun b hb => by rw [TransCmp.congr_left hxy]; exact hy b hb, hys⟩
    · rename_i hxy
      refine List.pairwise_cons.2 ⟨fun b hb => ?_, ih hys⟩
      rcases mem_of_mem_putBy hb with rfl | hb
      · exact OrientedCmp.lt_of_gt hxy
      · exact hy b hb

/-- In a strictly ascending list the entry placed takes the place of the one equal to it, and every
other entry stays. -/
theorem mem_putBy_iff {cmp : α → α → Ordering} [TransCmp cmp] {x a : α} {xs : List α}
    (h : Ascending cmp xs) : a ∈ putBy cmp x xs ↔ a = x ∨ a ∈ xs ∧ cmp x a ≠ .eq := by
  induction xs with
  | nil => simp [putBy]
  | cons y ys ih =>
    obtain ⟨hy, hys⟩ := List.pairwise_cons.1 h
    rw [putBy]
    split
    · rename_i hxy
      have hall : ∀ b ∈ y :: ys, cmp x b ≠ .eq := by
        intro b hb
        rcases List.mem_cons.1 hb with rfl | hb
        · simp [hxy]
        · simp [TransCmp.lt_trans hxy (hy b hb)]
      rw [List.mem_cons]
      exact or_congr_right ⟨fun hm => ⟨hm, hall a hm⟩, And.left⟩
    · rename_i hxy
      have hall : ∀ b ∈ ys, cmp x b ≠ .eq := by
        intro b hb
        rw [TransCmp.congr_left hxy]
        simp [hy b hb]
      rw [List.mem_cons]
      refine or_congr_right ⟨fun hm => ⟨.tail _ hm, hall a hm⟩, fun hm => ?_⟩
      rcases List.mem_cons.1 hm.1 with rfl | hm'
      · exact absurd hxy hm.2
      · exact hm'
    · rename_i hxy
      have hne : cmp x y ≠ .eq := by simp [hxy]
      rw [List.mem_cons, ih hys, List.mem_cons]
      constructor
      · rintro (rfl | rfl | hm)
        · exact .inr ⟨.inl rfl, hne⟩
        · exact .inl rfl
        · exact .inr ⟨.inr hm.1, hm.2⟩
      · rintro (rfl | ⟨rfl | hm, hn⟩)
        · exact .inr (.inl rfl)
        · exact .inl rfl
        · exact .inr (.inr ⟨hm, hn⟩)

end Gatehouse
