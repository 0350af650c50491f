import Gatehouse.Proofs.Check
import Gatehouse.Proofs.Store.Activity

/-!
# Calls that spare a subject

A decision depends on the grants that the subject holds and on nothing else
(`Untouched.decision_eq`).  A call spares a subject if it does not create, remove or switch a grant
that the subject holds; whatever else it does to grants, roles and the users who hold them, the
subject holds the same grants afterwards (`Operation.untouched`).  That takes identities which are
new when they are given: a grant stored under the identity of another one would take its place.
-/

set_option autoImplicit false

namespace Gatehouse

variable {subject : Subject}

/-! ## What a subject holds -/

theorem Owner.role_mem_of_isOf {id : RoleId} (h : (Owner.role id).isOf subject = true) :
    id ∈ subject.roles := by
  simpa [Owner.isOf] using h

/-- The subject holds the same grants in both stores. -/
def Store.Untouched (subject : Subject) (s t : Store) : Prop :=
  ∀ g : Grant, g.heldBy subject = true → (g ∈ t.grants ↔ g ∈ s.grants)

/-- The roles of the subject are there. -/
def Store.Knows (s : Store) (subject : Subject) : Prop :=
  ∀ id ∈ subject.roles, ∃ r ∈ s.roles, r.id = id

namespace Store

variable {s t u : Store}

theorem Untouched.refl (s : Store) : s.Untouched subject s := fun _ _ => Iff.rfl

theorem Untouched.trans (h : s.Untouched subject t) (h' : t.Untouched subject u) :
    s.Untouched subject u := fun g hg => (h' g hg).trans (h g hg)

theorem Untouched.of_eq (h : t.grants = s.grants) : s.Untouched subject t := fun g _ => by rw [h]

/-- Removing grants that the subject does not hold. -/
theorem Untouched.of_filter {p : Grant → Bool}
    (hp : ∀ g ∈ s.grants, g.heldBy subject = true → p g = true) :
    s.Untouched subject { s with grants := s.grants.filter p } := fun g hg =>
  Table.mem_filter.trans (and_iff_left_of_imp fun hmem => hp g hmem hg)

/-- Removing grants of a role that the subject does not have. -/
theorem Untouched.of_role {id : RoleId} {p : Grant → Bool} (hid : id ∉ subject.roles)
    (hp : ∀ g : Grant, p g = false → g.owner = .role id) :
    s.Untouched subject { s with grants := s.grants.filter p } :=
  .of_filter fun g _ hheld => Decidable.byContradiction fun hgone =>
    hid (Owner.role_mem_of_isOf (hp g (Bool.eq_false_iff.2 hgone) ▸ hheld))

/-- Writing a grant that the subject does not hold, either a new one or in place of one that the
subject does not hold either. -/
theorem Untouched.of_insert {grant : Grant} (n : Int32) (hgrant : grant.heldBy subject = false)
    (hs : ∀ g ∈ s.grants, g.id = grant.id → g.heldBy subject = false) :
    s.Untouched subject { s with grants := s.grants.insert grant, lastGrant := n } := by
  intro g hg
  refine mem_grants_insert.trans ⟨fun h => ?_, fun hmem => .inr ⟨hmem, fun hid => ?_⟩⟩
  · rcases h with rfl | ⟨hmem, -⟩
    · rw [hgrant] at hg
      cases hg
    · exact hmem
  · rw [hs g hmem hid] at hg
    cases hg

theorem Knows.effect (h : s.Knows subject) (he : s.Effect t) : t.Knows subject := by
  cases he with
  | roleAdded role id name => exact fun i hi => exists_id_insert role (h i hi)
  | roleSet old role mem id name => exact fun i hi => exists_id_insert role (h i hi)
  | _ => exact h

/-- Whoever holds the same grants gets the same decision. -/
theorem Untouched.decision_eq (h : s.Untouched subject t) (q : Request) :
    t.decision subject q = s.decision subject q :=
  decision_eq_of_grants fun g hcounts => h g (Owner.isOf_iff.2 hcounts.owner)

end Store

/-! ## Calls -/

/-- The call does not concern the grants that the subject holds. -/
def Operation.Spares (subject : Subject) (s : Store) : Operation → Prop
  | .createGrant d => d.owner.isOf subject = false
  | .deleteGrant id | .setActive id _ => ∀ g ∈ s.grants, g.id = id → g.heldBy subject = false
  | .clearRole id | .deleteAlike id _ _ _ => id ∉ subject.roles
  | .createRole _ | .changeRole _ _ | .assign _ _ | .revoke _ _ => True

namespace Operation

variable {s : Store} {op : Operation} {now : Stamp}

/-- After a call that spares the subject it holds the same grants. -/
theorem untouched (hs : s.Counted) (h : op.Spares subject s)
    (hk : s.KeepsCounting (op.after (.memory now) s)) :
    s.Untouched subject (op.after (.memory now) s) := by
  cases op with
  | createRole | changeRole | assign | revoke =>
    exact .of_eq (Operation.LeavesGrants.grants_after trivial)
  | createGrant d =>
    rcases after_createGrant d with hnone | hadded
    · rw [hnone]
      exact .refl s
    · rw [hadded] at hk ⊢
      exact .of_insert _ h fun g hg hid => absurd hid (hs.grant_ne_next hk.grant g hg)
  | deleteGrant id =>
    refine .of_filter fun g hg hheld => bne_iff_ne.2 fun hid => ?_
    rw [h g hg hid] at hheld
    cases hheld
  | setActive id active =>
    rcases after_setActive id active with hnone | ⟨g, hg, hid, hset⟩
    · rw [hnone]
      exact .refl s
    · rw [hset]
      exact .of_insert s.lastGrant (h g hg hid) fun g' hg' hid' => h g' hg' (hid'.trans hid)
  | clearRole id =>
    refine .of_role h fun g hgone => Store.owner_role?_beq_iff.1 ?_
    simpa using hgone
  | deleteAlike id area item action =>
    refine .of_role h fun g hgone => Store.owner_role?_beq_iff.1 ?_
    simp only [Bool.not_eq_false', Bool.and_eq_true] at hgone
    exact hgone.1.1.1

end Operation

/-- Orderly calls keep the roles of the subject. -/
theorem Store.Knows.replay {s : Store} {calls : List (Stamp × Operation)} (hs : s.Knows subject)
    (h : Along (fun u now op => op.Orderly u now) s calls) : (s.replay calls).Knows subject :=
  h.invariant (I := (·.Knows subject)) (fun u now op hop hu => hu.effect (op.effect hop.1 now u)) hs

/-- After orderly calls that spare the subject it holds the same grants. -/
theorem Store.untouched_replay {s : Store} {calls : List (Stamp × Operation)}
    (hs : s.ReachableInRange)
    (h : Along (fun u now op => op.Orderly u now ∧ op.Spares subject u) s calls) :
    s.Untouched subject (s.replay calls) := by
  refine (h.invariant (I := fun u => u.ReachableInRange ∧ s.Untouched subject u) ?_
    ⟨hs, .refl s⟩).2
  rintro u now op ⟨⟨hproper, hk⟩, hspares⟩ ⟨hu, huntouched⟩
  exact ⟨hu.call now hproper hk, huntouched.trans (op.untouched hu.counted hspares hk)⟩

end Gatehouse
