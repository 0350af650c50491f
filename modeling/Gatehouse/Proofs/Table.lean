import Gatehouse.Table

/-!
# Rows and keys

What proofs about the store need to know of its tables: a key stands for at most one row
(`eq_of_mem`), so a row is found by its key (`find?_eq_some_iff`), writing a row whose key is
not there yet adds exactly that row (`rows_insert_perm`), and a table is made again from a listing
of its rows (`ofList_eq_of_perm`).  Lists in strict order are tables in all but name, and the last
section has what is needed of them.
-/

set_option autoImplicit false

namespace Gatehouse

open Std

namespace Table

variable {α : Type} {cmp : α → α → Ordering}

/-- Two rows with one key are one row. -/
theorem eq_of_mem [TransCmp cmp] {t : Table cmp} {a b : α} (ha : a ∈ t) (hb : b ∈ t)
    (h : cmp a b = .eq) : a = b := by
  have hord : t.rows.Pairwise fun x y => cmp x y = .eq → x = y :=
    t.ascending.imp fun hlt heq => by rw [hlt] at heq; cases heq
  have hflip : t.rows.Pairwise (flip fun x y => cmp x y = .eq → x = y) :=
    t.ascending.imp fun hlt heq => by rw [OrientedCmp.eq_symm heq] at hlt; cases hlt
  exact hord.forall_of_forall_of_flip (fun _ _ _ => rfl) hflip ha hb h

theorem nodup_rows [TransCmp cmp] (t : Table cmp) : t.rows.Nodup :=
  t.ascending.imp fun {a b} h hab => by
    have hself : cmp a a = .eq := ReflCmp.compare_self
    rw [← hab, hself] at h
    cases h

/-- Two tables that agree on the rows that satisfy `p` list these rows alike. -/
theorem filter_rows_congr [TransCmp cmp] {t u : Table cmp} {p : α → Bool}
    (h : ∀ a, p a = true → (a ∈ t ↔ a ∈ u)) : t.rows.filter p = u.rows.filter p := by
  have hperm : (t.rows.filter p).Perm (u.rows.filter p) := by
    refine (List.perm_ext_iff_of_nodup ((nodup_rows t).filter p) ((nodup_rows u).filter p)).2
      fun a => ?_
    rw [List.mem_filter, List.mem_filter]
    exact and_congr_left (h a)
  have hanti : ∀ a b, a ∈ t.rows.filter p → b ∈ u.rows.filter p → cmp a b = .lt → cmp b a = .lt →
      a = b := fun a b _ _ hab hba => by
    rw [OrientedCmp.gt_of_lt hab] at hba
    cases hba
  exact hperm.eq_of_pairwise hanti (t.ascending.filter p) (u.ascending.filter p)

/-- Two tables with the same rows are one table. -/
theorem ext_mem [TransCmp cmp] {t u : Table cmp} (h : ∀ a, a ∈ t ↔ a ∈ u) : t = u := by
  have hrows := filter_rows_congr (p := fun _ => true) fun a _ => h a
  rw [List.filter_eq_self.2 fun _ _ => rfl, List.filter_eq_self.2 fun _ _ => rfl] at hrows
  exact ext hrows

/-- A look-up that only one key satisfies finds a row if and only if it is there. -/
theorem find?_eq_some_iff [TransCmp cmp] {t : Table cmp} {p : α → Bool} {a : α}
    (hp : ∀ b, p a = true → p b = true → cmp a b = .eq) :
    t.find? p = some a ↔ a ∈ t ∧ p a = true := by
  constructor
  · intro h
    exact ⟨List.mem_of_find?_eq_some h, List.find?_some h⟩
  · rintro ⟨ha, hpa⟩
    cases hf : t.find? p with
    | none => exact absurd hpa (List.find?_eq_none.1 hf a ha)
    | some b =>
      have hb : b ∈ t := List.mem_of_find?_eq_some hf
      rw [eq_of_mem ha hb (hp b hpa (List.find?_some hf))]

theorem find?_eq_none_iff {t : Table cmp} {p : α → Bool} :
    t.find? p = none ↔ ∀ a ∈ t, p a = false := by
  rw [Table.find?, List.find?_eq_none]
  exact forall₂_congr fun a _ => by simp

/-- Writing a row takes the place of no other one if no other one has its key. -/
theorem mem_insert_of_distinct [TransCmp cmp] {t : Table cmp} {x a : α}
    (hx : ∀ b ∈ t, cmp x b = .eq → x = b) : a ∈ t.insert x ↔ a = x ∨ a ∈ t := by
  rw [mem_insert]
  constructor
  · exact Or.imp_right And.left
  · rintro (rfl | ha)
    · exact .inl rfl
    · by_cases hkey : cmp x a = .eq
      · exact .inl (hx a ha hkey).symm
      · exact .inr ⟨ha, hkey⟩

/-- Writing a row under a new key adds it and touches nothing else. -/
theorem mem_insert_of_new [TransCmp cmp] {t : Table cmp} {x a : α}
    (hx : ∀ b ∈ t, cmp x b ≠ .eq) : a ∈ t.insert x ↔ a = x ∨ a ∈ t :=
  mem_insert_of_distinct fun b hb hkey => absurd hkey (hx b hb)

/-- A table keeps all entries of the list it is made from if a key stands for one of them only. -/
theorem mem_ofList_of_distinct [TransCmp cmp] {xs : List α}
    (hxs : ∀ x ∈ xs, ∀ y ∈ xs, cmp x y = .eq → x = y) {a : α} :
    a ∈ (ofList xs : Table cmp) ↔ a ∈ xs := by
  -- The rows written so far have keys of their own as well.
  suffices h : ∀ t : Table cmp, (∀ x ∈ xs, ∀ b ∈ t, cmp x b = .eq → x = b) →
      (a ∈ xs.foldl insert t ↔ a ∈ t ∨ a ∈ xs) by
    simpa [ofList, mem_def] using h empty (by simp [mem_def])
  induction xs with
  | nil => simp
  | cons x xs ih =>
    intro t ht
    have hmem : ∀ b, b ∈ t.insert x ↔ b = x ∨ b ∈ t := fun b =>
      mem_insert_of_distinct (ht x List.mem_cons_self)
    rw [List.foldl_cons, ih (fun y hy z hz => hxs y (.tail _ hy) z (.tail _ hz)), hmem,
      List.mem_cons, or_comm (a := a = x), or_assoc]
    intro y hy b hb hkey
    rcases (hmem b).1 hb with rfl | hb
    · exact hxs y (.tail _ hy) b List.mem_cons_self hkey
    · exact ht y (.tail _ hy) b hb hkey

/-- A table is made again from any listing of its rows. -/
theorem ofList_eq_of_perm [TransCmp cmp] {t : Table cmp} {xs : List α} (h : xs.Perm t.rows) :
    ofList xs = t := by
  refine ext_mem fun a => ?_
  rw [mem_ofList_of_distinct fun x hx y hy => eq_of_mem (h.mem_iff.1 hx) (h.mem_iff.1 hy),
    h.mem_iff, mem_def]

/-- A row that is its own key takes no other row's place. -/
theorem mem_insert_self_key [TransCmp cmp] [LawfulEqCmp cmp] {t : Table cmp} {x a : α} :
    a ∈ t.insert x ↔ a = x ∨ a ∈ t :=
  mem_insert_of_distinct fun _ _ hkey => LawfulEqCmp.eq_of_compare hkey

/-- Writing a row that is there changes nothing. -/
theorem insert_of_mem [TransCmp cmp] [LawfulEqCmp cmp] {t : Table cmp} {x : α} (hx : x ∈ t) :
    t.insert x = t :=
  ext_mem fun a => by
    rw [mem_insert_self_key]
    exact or_iff_right_of_imp fun ha => ha ▸ hx

theorem rows_insert_perm [TransCmp cmp] {t : Table cmp} {x : α} (hx : ∀ b ∈ t, cmp x b ≠ .eq) :
    (t.insert x).rows.Perm (x :: t.rows) := by
  have hnew : x ∉ t.rows := fun h => hx x h ReflCmp.compare_self
  have hnodup : (x :: t.rows).Nodup := List.nodup_cons.2 ⟨hnew, nodup_rows t⟩
  refine (List.perm_ext_iff_of_nodup (nodup_rows _) hnodup).2 fun a => ?_
  rw [← mem_def, mem_insert_of_new hx, List.mem_cons, mem_def]

end Table

/-! ## Lists in order -/

section Order

variable {α : Type} {cmp : α → α → Ordering} {xs ys : List α}

/-- Sorting entries that compare unequal leaves no two that compare equal. -/
theorem ascending_sortBy_of_distinct [TransCmp cmp] (hnodup : xs.Nodup)
    (h : ∀ a ∈ xs, ∀ b ∈ xs, cmp a b = .eq → a = b) : Ascending cmp (sortBy cmp xs) := by
  have hsorted : (sortBy cmp xs).Nodup := (sortBy_perm cmp xs).nodup_iff.2 hnodup
  refine ((pairwise_sortBy cmp xs).and hsorted).imp_of_mem ?_
  rintro a b ha hb ⟨hle, hne⟩
  rw [mem_sortBy] at ha hb
  have hdiffer : cmp a b ≠ .eq := fun heq => hne (h a ha b hb heq)
  cases hcmp : cmp a b with
  | lt => rfl
  | eq => exact absurd hcmp hdiffer
  | gt => rw [hcmp] at hle; cases hle

theorem ascending_sortBy [TransCmp cmp] [LawfulEqCmp cmp] (h : xs.Nodup) :
    Ascending cmp (sortBy cmp xs) :=
  ascending_sortBy_of_distinct h fun _ _ _ _ => LawfulEqCmp.eq_of_compare

theorem Ascending.nodup [TransCmp cmp] (h : Ascending cmp xs) : xs.Nodup :=
  Table.nodup_rows ⟨xs, h⟩

/-- What is in order is known by its entries. -/
theorem Ascending.eq_of_mem_iff [TransCmp cmp] (hx : Ascending cmp xs) (hy : Ascending cmp ys)
    (h : ∀ a, a ∈ xs ↔ a ∈ ys) : xs = ys :=
  congrArg Table.rows (Table.ext_mem h : (⟨xs, hx⟩ : Table cmp) = ⟨ys, hy⟩)

end Order

end Gatehouse
