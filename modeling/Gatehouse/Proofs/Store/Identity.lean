import Gatehouse.Proofs.Store.Activity

/-!
# Identities of grants

A grant keeps what it says and who owns it from when it is stored until it is removed; only whether
it is in force can change.  Unless the counter wraps around, its identity is not given again either.
So whatever is found later under an identity that was given before is the grant that had it then
(`Store.Descends`), whatever calls and transactions came in between.
-/

set_option autoImplicit false

namespace Gatehouse

/-- The second store came later: a grant in it whose identity had been given in the first store is a
grant of the first store, in or out of force. -/
structure Store.Descends (s t : Store) : Prop where
  counter : s.lastGrant ≤ t.lastGrant
  grants : ∀ g ∈ t.grants, g.id.value ≤ s.lastGrant →
    ∃ old ∈ s.grants, ∃ active, g = old.inForce active

namespace Store.Descends

variable {s t u : Store}

theorem refl (s : Store) : s.Descends s := ⟨Int32.le_refl _, fun g hg _ => ⟨g, hg, g.active, rfl⟩⟩

theorem effect (h : s.Descends t) (he : t.Effect u) (hk : t.KeepsCounting u) : s.Descends u := by
  cases he with
  | none => exact h
  | roleAdded role id name => exact ⟨h.counter, h.grants⟩
  | roleSet old role mem id name => exact ⟨h.counter, h.grants⟩
  | linked user role mem => exact ⟨h.counter, h.grants⟩
  | unlinked p => exact ⟨h.counter, h.grants⟩
  | grantAdded d made owner =>
    refine ⟨Int32.le_trans h.counter hk.grant, fun g hg hid => ?_⟩
    rcases mem_grants_insert.1 hg with rfl | ⟨hg, -⟩
    · exact absurd rfl (ne_next hk.grant (Int32.le_trans hid h.counter))
    · exact h.grants g hg hid
  | grantsRemoved p => exact ⟨h.counter, fun g hg => h.grants g (Table.mem_filter.1 hg).1⟩
  | grantSwitched g mem active =>
    refine ⟨h.counter, fun g' hg' hid => ?_⟩
    rcases mem_grants_insert.1 hg' with rfl | ⟨hg', -⟩
    · obtain ⟨old, hold, was, rfl⟩ := h.grants g mem hid
      exact ⟨old, hold, active, rfl⟩
    · exact h.grants g' hg' hid

/-- Orderly calls keep what is known about old identities. -/
theorem replay {calls : List (Stamp × Operation)} (h : s.Descends t)
    (hcalls : Along (fun v now op => op.Orderly v now) t calls) : s.Descends (t.replay calls) :=
  hcalls.invariant (fun v now op hop hv => hv.effect (op.effect hop.1 now v) hop.2) h

@[inherit_doc replay]
theorem activity {a : Activity} (h : s.Descends t) (ha : a.Orderly t) : s.Descends (a.after t) := by
  rw [a.after_eq_replay]
  exact h.replay ha

end Store.Descends

end Gatehouse
