import Gatehouse.Order

/-!
# Tables

A `Table cmp` is a list of rows in strictly ascending order of `cmp`, so no two rows share a key
and equal contents are equal tables.  The store keeps its roles, links and grants in tables, the
scenario library its scenarios, and a set of names or signatures is a table whose rows are their
own keys.

Writing goes through `insert` (which replaces the row with the same key) and `filter`; reading goes
through `rows`, which is the view every statement about a table is made in: `mem_insert` and
`mem_filter` say what the two operations do to it.
-/

set_option autoImplicit false

namespace Gatehouse

open Std

/-- Rows in strictly ascending order of `cmp`. -/
structure Table {α : Type} (cmp : α → α → Ordering) where
  /-- The rows, in order. -/
  rows : List α
  /-- No row comes before, or shares its key with, an earlier one. -/
  ascending : Ascending cmp rows

namespace Table

variable {α : Type} {cmp : α → α → Ordering}

@[ext] theorem ext {t u : Table cmp} (h : t.rows = u.rows) : t = u := by
  cases t; cases u; cases h; rfl

instance [DecidableEq α] : DecidableEq (Table cmp) := fun t u =>
  decidable_of_iff (t.rows = u.rows) ⟨ext, fun h => h ▸ rfl⟩

/-- No rows. -/
def empty : Table cmp := ⟨[], .nil⟩

instance : Inhabited (Table cmp) := ⟨empty⟩

instance : EmptyCollection (Table cmp) := ⟨empty⟩

/-- Writes a row, in place of the one with the same key if there is one. -/
def insert [TransCmp cmp] (t : Table cmp) (x : α) : Table cmp :=
  ⟨putBy cmp x t.rows, t.ascending.putBy x⟩

/-- The rows that satisfy `p`. -/
def filter (t : Table cmp) (p : α → Bool) : Table cmp :=
  ⟨t.rows.filter p, t.ascending.filter p⟩

/-- The first row that satisfies `p`. -/
def find? (t : Table cmp) (p : α → Bool) : Option α := t.rows.find? p

/-- The rows of a list; of several rows with one key the last stays. -/
def ofList [TransCmp cmp] (xs : List α) : Table cmp := xs.foldl insert empty

/-- The number of rows. -/
def size (t : Table cmp) : Nat := t.rows.length

instance : Membership α (Table cmp) := ⟨fun t a => a ∈ t.rows⟩

theorem mem_def {t : Table cmp} {a : α} : a ∈ t ↔ a ∈ t.rows := Iff.rfl

instance [DecidableEq α] (t : Table cmp) (a : α) : Decidable (a ∈ t) :=
  inferInstanceAs (Decidable (a ∈ t.rows))

@[simp] theorem rows_empty : (empty : Table cmp).rows = [] := rfl

theorem mem_insert [TransCmp cmp] {t : Table cmp} {x a : α} :
    a ∈ t.insert x ↔ a = x ∨ a ∈ t ∧ cmp x a ≠ .eq :=
  mem_putBy_iff t.ascending

theorem mem_filter {t : Table cmp} {p : α → Bool} {a : α} : a ∈ t.filter p ↔ a ∈ t ∧ p a :=
  List.mem_filter

/-- A table whose rows are their own keys keeps the entries of the list it is made from. -/
theorem mem_ofList [TransCmp cmp] [LawfulEqCmp cmp] {xs : List α} {a : α} :
    a ∈ (ofList xs : Table cmp) ↔ a ∈ xs := by
  suffices h : ∀ t : Table cmp, a ∈ xs.foldl insert t ↔ a ∈ t ∨ a ∈ xs by
    simpa [ofList, mem_def] using h empty
  induction xs with
  | nil => simp
  | cons x xs ih =>
    intro t
    rw [List.foldl_cons, ih, mem_insert, List.mem_cons]
    by_cases hx : a = x
    · simp [hx]
    · have : cmp x a ≠ .eq := fun h => hx (LawfulEqCmp.eq_of_compare h).symm
      simp [hx, this]

end Table

end Gatehouse
