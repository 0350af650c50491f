import Gatehouse.Check
import Gatehouse.Proofs.Decision
import Gatehouse.Proofs.Store.Memory

/-!
# Checking permissions on the store

A grant counts for a request when it is in force, on the section and the action asked about,
owned by the subject, and narrowed to no other item or instance than those of the request.
`Grant.Counts` says this field by field; `Store.counting` collects what the counting grants of a
store say.

On the store itself `Backend.check` never fails, changes nothing, and gives the decision that
follows from `Store.counting` (`run_check_eq_ok_iff`).  What the store does on the way — filtering,
sorting, filtering again, and leaving out the look-up for a subject that is nobody — cannot be seen
from outside.  In particular the decision depends only on `Grant.core`, on who owns a grant and what
it says beside its remarks, and on that only as a set.
-/

set_option autoImplicit false

namespace Gatehouse

/-! ## Which grants count -/

/-- The grant counts when the subject asks. -/
structure Grant.Counts (g : Grant) (subject : Subject) (q : Request) : Prop where
  /-- It is in force. -/
  active : g.active = true
  /-- It is on the section asked about. -/
  area : g.area = q.area
  /-- It is on the action asked about. -/
  action : g.action = q.action
  /-- It is owned by one of the roles of the subject or by its user. -/
  owner : (∃ id ∈ subject.roles, g.owner = .role id) ∨
    ∃ id, subject.user = some id ∧ g.owner = .user id
  /-- It is on any item or on the one asked about. -/
  item : g.item = none ∨ g.item = q.item
  /-- It is on any instance or on the one asked about. -/
  itemId : g.itemId = none ∨ g.itemId = q.itemId

/-- The terms of the grants in the store that count. -/
def Store.counting (s : Store) (subject : Subject) (q : Request) (t : Terms) : Prop :=
  ∃ g ∈ s.grants, g.Counts subject q ∧ g.toTerms = t

theorem Owner.isOf_iff {o : Owner} {subject : Subject} :
    o.isOf subject = true ↔
      (∃ id ∈ subject.roles, o = .role id) ∨ ∃ id, subject.user = some id ∧ o = .user id := by
  cases o <;> simp [Owner.isOf]

theorem Terms.covers_iff {t : Terms} {q : Request} :
    t.covers q = true ↔ t.active = true ∧ t.area = q.area ∧ t.action = q.action ∧
      (t.item = none ∨ t.item = q.item) ∧ (t.itemId = none ∨ t.itemId = q.itemId) := by
  rw [Terms.covers]
  cases t.item <;> cases t.itemId <;>
    simp [and_assoc, @eq_comm _ q.item, @eq_comm _ q.itemId]

theorem Grant.counts_iff {g : Grant} {subject : Subject} {q : Request} :
    (g.heldBy subject && g.covers q) = true ↔ g.Counts subject q := by
  rw [Bool.and_eq_true, Terms.covers_iff, Grant.heldBy, Owner.isOf_iff]
  constructor
  · rintro ⟨howner, hactive, harea, haction, hitem, hid⟩
    exact ⟨hactive, harea, haction, howner, hitem, hid⟩
  · rintro ⟨hactive, harea, haction, howner, hitem, hid⟩
    exact ⟨howner, hactive, harea, haction, hitem, hid⟩

/-- Nothing counts when nobody asks. -/
theorem Grant.not_counts_of_isEmpty {g : Grant} {subject : Subject} {q : Request}
    (h : subject.isEmpty = true) : ¬ g.Counts subject q := by
  obtain ⟨roles, user⟩ := subject
  simp only [Subject.isEmpty, Bool.and_eq_true, List.isEmpty_iff, Option.isNone_iff_eq_none] at h
  obtain ⟨rfl, rfl⟩ := h
  rintro ⟨-, -, -, howner, -, -⟩
  simp at howner

/-! ## The decision on a store -/

namespace Store

/-- The terms that the store delivers for a request, after they have been looked at again. -/
def candidates (s : Store) (subject : Subject) (q : Request) : List Terms :=
  ((s.grantsFor subject q).filter fun g => g.heldBy subject && g.covers q).map (·.toTerms)

/-- The decision of the store. -/
def decision (s : Store) (subject : Subject) (q : Request) : Decision :=
  if subject.isEmpty then .resolve [] else .resolve (s.candidates subject q)

theorem mem_candidates {s : Store} {subject : Subject} {q : Request} {t : Terms} :
    t ∈ s.candidates subject q ↔ s.counting subject q t := by
  simp only [candidates, grantsFor, grantsWhere, counting, List.mem_map, List.mem_filter,
    mem_sortBy, Grant.counts_iff, ← Table.mem_def]
  constructor
  · rintro ⟨g, ⟨⟨hg, -⟩, hcounts⟩, rfl⟩
    exact ⟨g, hg, hcounts, rfl⟩
  · rintro ⟨g, hg, hcounts, rfl⟩
    exact ⟨g, ⟨⟨hg, hcounts⟩, hcounts⟩, rfl⟩

theorem follows_decision (s : Store) (subject : Subject) (q : Request) :
    Decision.Follows (s.counting subject q) (s.decision subject q) := by
  rw [decision]
  split
  · rename_i h
    refine .noMatch ?_
    rintro t ⟨g, -, hg, -⟩
    exact Grant.not_counts_of_isEmpty h hg
  · exact (Decision.follows_resolve _).congr fun t => mem_candidates

/-- The decision of the store is the only one that follows. -/
theorem decision_eq_iff {s : Store} {subject : Subject} {q : Request} {d : Decision} :
    s.decision subject q = d ↔ Decision.Follows (s.counting subject q) d :=
  ⟨fun h => h ▸ s.follows_decision subject q, fun h => (s.follows_decision subject q).unique h⟩

/-- Where the same counts, the decision is the same. -/
theorem decision_congr {s t : Store} {subject subject' : Subject} {q q' : Request}
    (h : ∀ x, s.counting subject q x ↔ t.counting subject' q' x) :
    s.decision subject q = t.decision subject' q' :=
  decision_eq_iff.2 <| (t.follows_decision subject' q').congr fun x => (h x).symm

/-- Two stores with the same grants that count decide alike. -/
theorem decision_eq_of_grants {s t : Store} {subject : Subject} {q : Request}
    (h : ∀ g : Grant, g.Counts subject q → (g ∈ s.grants ↔ g ∈ t.grants)) :
    s.decision subject q = t.decision subject q :=
  decision_congr fun _ => exists_congr fun g => and_congr_left fun hg => h g hg.1

end Store

/-- Checking on the store succeeds and leaves it as it is. -/
theorem run_check_memory (now : Stamp) (s : Store) (subject : Subject) (q : Request) :
    ((Backend.memory now).check subject q).run s = (.ok (s.decision subject q), s) := by
  rw [Backend.check, Store.decision]
  split
  · rfl
  · simp only [Action.run_bind, Backend.run_grantsFor_memory, Action.run_pure, Store.candidates]

/-! ## What cannot matter -/

/-- What of a grant can matter to a decision: its owner, and what it says beside its remarks. -/
def Grant.core (g : Grant) : Owner × Terms :=
  (g.owner, { g.toTerms with itemRule := none, extra := none })

/-- The cores of the grants in one store are those of the grants in the other. -/
def Store.SameCores (s t : Store) : Prop :=
  ∀ c, (∃ g ∈ s.grants, g.core = c) ↔ ∃ g ∈ t.grants, g.core = c

theorem Grant.Counts.of_core {g g' : Grant} {subject : Subject} {q : Request}
    (h : g'.core = g.core) (hg : g.Counts subject q) : g'.Counts subject q := by
  simp only [core, Prod.mk.injEq, Terms.mk.injEq, true_and] at h
  obtain ⟨howner, harea, hitem, hid, -, haction, hactive⟩ := h
  exact ⟨hactive.trans hg.active, harea.trans hg.area, haction.trans hg.action,
    howner ▸ hg.owner, hitem ▸ hg.item, hid ▸ hg.itemId⟩

theorem Grant.weight_of_core {g g' : Grant} (h : g'.core = g.core) :
    g'.toTerms.weight = g.toTerms.weight := by
  simp only [core, Prod.mk.injEq, Terms.mk.injEq, true_and] at h
  simp only [Terms.weight, Terms.tier, h]

theorem Store.SameCores.covered {s t : Store} {subject : Subject} {q : Request}
    (h : s.SameCores t) : Decision.Covered (s.counting subject q) (t.counting subject q) := by
  rintro _ ⟨g, hg, hcounts, rfl⟩
  obtain ⟨g', hg', hcore⟩ := (h g.core).1 ⟨g, hg, rfl⟩
  exact ⟨g'.toTerms, ⟨g', hg', hcounts.of_core hcore, rfl⟩, Grant.weight_of_core hcore⟩

theorem Store.SameCores.symm {s t : Store} (h : s.SameCores t) : t.SameCores s :=
  fun c => (h c).symm

theorem Store.SameCores.decision_eq {s t : Store} (h : s.SameCores t) (subject : Subject)
    (q : Request) : t.decision subject q = s.decision subject q :=
  Store.decision_eq_iff.2 <| (s.follows_decision subject q).of_weights h.covered h.symm.covered

/-- **Checking on the store gives exactly the decision that follows from its grants.**  It never
fails and changes nothing; nobody is refused everything; and neither the order of the grants nor
how often one occurs, neither identities nor remarks can matter. -/
theorem check_on_store_follows (now : Stamp) (s : Store) (subject : Subject) (q : Request) :
    (∃ d, ((Backend.memory now).check subject q).run s = (.ok d, s)) ∧
    (∀ d, ((Backend.memory now).check subject q).run s = (.ok d, s) ↔
      Decision.Follows (s.counting subject q) d) ∧
    (subject.isEmpty = true →
      ((Backend.memory now).check subject q).run s = (.ok ⟨false, .noMatch⟩, s)) ∧
    ∀ t : Store, s.SameCores t →
      (((Backend.memory now).check subject q).run t).1 =
        (((Backend.memory now).check subject q).run s).1 := by
  simp only [run_check_memory]
  refine ⟨⟨_, rfl⟩, fun d => ?_, fun hempty => ?_, fun t h => ?_⟩
  · rw [← Store.decision_eq_iff]
    simp
  · have hnone : Decision.Follows (s.counting subject q) ⟨false, .noMatch⟩ :=
      .noMatch fun t ⟨g, _, hg, _⟩ => Grant.not_counts_of_isEmpty hempty hg
    rw [Store.decision_eq_iff.2 hnone]
  · rw [h.decision_eq]

end Gatehouse
