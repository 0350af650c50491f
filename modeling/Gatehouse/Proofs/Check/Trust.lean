import Gatehouse.Proofs.Check
import Gatehouse.Proofs.Store.Reachable
import Gatehouse.Store.Faults

/-!
# Checking on a backend that is not trusted

A backend may deliver anything when it is asked for the grants of a request, or fail.  Since what it
delivers is looked at again, only grants that count can matter, and only on account of one of them
can a request be granted.  A backend that adds other grants, repeats or shuffles them decides as a
store does that has exactly those that count; one that fails decides nothing, and then the answer is
no.

`Backend.FailsClosed` lists these facts and how the three ways of asking hang together: `check`
tells what went wrong, `permits` says no instead, and `demand` forbids whatever `permits` denies.
They hold of every backend, in every state (`check_fails_closed`).
-/

set_option autoImplicit false

namespace Gatehouse

variable {σ τ : Type}

/-! ## The decision on what is delivered -/

/-- The decision on a list of grants, of which those that count are picked. -/
def Decision.among (gs : List Grant) (subject : Subject) (q : Request) : Decision :=
  .resolve ((gs.filter fun g => g.heldBy subject && g.covers q).map (·.toTerms))

namespace Decision

variable {gs : List Grant} {subject : Subject} {q : Request}

theorem follows_among : Follows (fun t => ∃ g ∈ gs, g.Counts subject q ∧ g.toTerms = t)
    (among gs subject q) := by
  refine (follows_resolve _).congr fun t => ?_
  simp only [List.mem_map, List.mem_filter, Grant.counts_iff, and_assoc]

/-- Only a grant that counts and allows can bring about a yes. -/
theorem exists_of_among_allowed (h : (among gs subject q).allowed = true) :
    ∃ g ∈ gs, g.Counts subject q ∧ g.rule = .allow := by
  have hfollows : Follows _ (among gs subject q) := follows_among
  generalize among gs subject q = d at h hfollows
  cases hfollows with
  | noMatch => cases h
  | denied => cases h
  | allowed top allows =>
    obtain ⟨t, ⟨g, hg, hcounts, rfl⟩, htier⟩ := top.attained
    have hrule : g.rule ≠ .deny := allows _ ⟨g, hg, hcounts, rfl⟩ htier
    refine ⟨g, hg, hcounts, ?_⟩
    cases hr : g.rule with
    | allow => rfl
    | deny => exact absurd hr hrule

/-- A list that holds the same counting grants as a store leads to the decision of the store. -/
theorem among_eq_decision {x : Store}
    (h : ∀ g : Grant, g.Counts subject q → (g ∈ gs ↔ g ∈ x.grants)) :
    among gs subject q = x.decision subject q := by
  refine (Store.decision_eq_iff.2 <| follows_among.congr fun t => ?_).symm
  constructor
  · rintro ⟨g, hg, hcounts, rfl⟩
    exact ⟨g, (h g hcounts).1 hg, hcounts, rfl⟩
  · rintro ⟨g, hg, hcounts, rfl⟩
    exact ⟨g, (h g hcounts).2 hg, hcounts, rfl⟩

end Decision

/-! ## How the three ways of asking run -/

namespace Backend

variable (b : Backend σ τ) (subject : Subject) (q : Request) (s : σ)

/-- A check is a look-up and a decision, of which nobody is spared the look-up only. -/
theorem run_check : (b.check subject q).run s =
    if subject.isEmpty then (.ok ⟨false, .noMatch⟩, s)
    else match (b.grantsFor subject q).run s with
      | (.ok gs, t) => (.ok (.among gs subject q), t)
      | (.error e, t) => (.error e, t) := by
  rw [check]
  split
  · rfl
  · rw [Action.run_bind]
    rcases (b.grantsFor subject q).run s with ⟨e | gs, t⟩ <;> rfl

/-- A request is granted if the check succeeds and says so. -/
theorem run_permits : (b.permits subject q).run s =
    (.ok (((b.check subject q).run s).1.toOption.any (·.allowed)),
      ((b.check subject q).run s).2) := by
  rw [permits]
  rcases h : (b.check subject q).run s with ⟨e | d, t⟩
  · rw [Action.run_bind_of_ok]
    rotate_left
    · rw [Action.run_tryCatch, Action.run_bind_of_error h]
      rfl
    · rfl
  · rw [Action.run_bind_of_ok]
    rotate_left
    · rw [Action.run_tryCatch, Action.run_bind_of_ok h]
      rfl
    · rfl

theorem run_demand {answer : Bool} {t : σ}
    (h : (b.permits subject q).run s = (.ok answer, t)) :
    (b.demand subject q).run s = (if answer then .ok () else .error .forbidden, t) := by
  rw [demand, Action.run_bind_of_ok h]
  cases answer <;> rfl

/-! ## What holds of every backend -/

/-- No answer of the backend to the look-up for a request leads to more than what it delivers
allows. -/
structure FailsClosed : Prop where
  /-- A check grants only on account of a grant that was delivered, counts and allows. -/
  granted : ∀ d t, (b.check subject q).run s = (.ok d, t) → d.allowed = true →
    ∃ gs, (b.grantsFor subject q).run s = (.ok gs, t) ∧
      ∃ g ∈ gs, g.Counts subject q ∧ g.rule = .allow
  /-- If the grants that were delivered and count are those of a store, then the decision is that of
  the store, whatever else was delivered, how often and in which order. -/
  exact : ∀ gs t, (b.grantsFor subject q).run s = (.ok gs, t) →
    ∀ x : Store, (∀ g : Grant, g.Counts subject q → (g ∈ gs ↔ g ∈ x.grants)) → ∀ now,
      ((b.check subject q).run s).1 = (((memory now).check subject q).run x).1
  /-- If the look-up fails, so does a check that needs it, and the request is not granted. -/
  failed : ∀ e t, (b.grantsFor subject q).run s = (.error e, t) →
    (subject.isEmpty = false → (b.check subject q).run s = (.error e, t)) ∧
      ((b.permits subject q).run s).1 = .ok false
  /-- Nobody is refused, also by a backend that would fail. -/
  nobody : subject.isEmpty = true → (b.check subject q).run s = (.ok ⟨false, .noMatch⟩, s) ∧
    (b.permits subject q).run s = (.ok false, s)
  /-- The three ways of asking agree: a yes of the check is a yes of `permits` and lets `demand`
  pass; everything else, an error included, is a no and forbidden. -/
  agree : ∃ answer t, (b.permits subject q).run s = (.ok answer, t) ∧
    (answer = true ↔ ∃ d, (b.check subject q).run s = (.ok d, t) ∧ d.allowed = true) ∧
    (b.demand subject q).run s = (if answer then .ok () else .error .forbidden, t)

/-- **Checking fails closed on every backend.** -/
theorem check_fails_closed : b.FailsClosed subject q s := by
  have hcheck := b.run_check subject q s
  have hpermits := b.run_permits subject q s
  refine ⟨fun d t hd hallowed => ?_, fun gs t hgs x hx now => ?_, fun e t he => ?_,
    fun hempty => ?_, _, _, hpermits, ?_, b.run_demand subject q s hpermits⟩
  · rw [hcheck] at hd
    split at hd
    · cases hd
      cases hallowed
    · split at hd <;> cases hd
      rename_i gs hgs
      exact ⟨gs, hgs, Decision.exists_of_among_allowed hallowed⟩
  · rw [hcheck, hgs, run_check_memory]
    split
    · rename_i hempty
      rw [Store.decision, if_pos hempty]
      rfl
    · exact congrArg Except.ok (Decision.among_eq_decision hx)
  · rw [he] at hcheck
    refine ⟨fun hsomebody => by rw [hcheck, hsomebody]; rfl, ?_⟩
    rw [hpermits, hcheck]
    split <;> rfl
  · rw [if_pos hempty] at hcheck
    rw [hcheck] at hpermits
    exact ⟨hcheck, hpermits⟩
  · rcases (b.check subject q).run s with ⟨e | d, t⟩ <;> simp [Except.toOption]

/-- A writer who asks to see a draft is refused by the teams, and no less by a backend that delivers
all grants there are; an editor who asks to see the news gets an error of a backend that fails, and
is refused as well. -/
theorem check_fails_closed_draft :
    ((Faults.inject { lenientLookup := true } (memory newYear)).grantsFor ⟨[⟨1⟩], none⟩
        ⟨"news", some "draft", none, "see"⟩).run teams = (.ok teams.grants.rows, teams) ∧
    (((Faults.inject { lenientLookup := true } (memory newYear)).check ⟨[⟨1⟩], none⟩
        ⟨"news", some "draft", none, "see"⟩).run teams).1 =
      (((memory newYear).check ⟨[⟨1⟩], none⟩ ⟨"news", some "draft", none, "see"⟩).run teams).1 ∧
    ((Faults.inject { failLookup := true } (memory newYear)).check ⟨[⟨2⟩], none⟩
        ⟨"news", none, none, "see"⟩).run teams =
      (.error (Faults.injected "matching_grants"), teams) ∧
    (((Faults.inject { failLookup := true } (memory newYear)).permits ⟨[⟨2⟩], none⟩
        ⟨"news", none, none, "see"⟩).run teams).1 = .ok false := by
  have hall : ((Faults.inject { lenientLookup := true } (memory newYear)).grantsFor ⟨[⟨1⟩], none⟩
      ⟨"news", some "draft", none, "see"⟩).run teams = (.ok teams.grants.rows, teams) := rfl
  obtain ⟨hcheck, hpermits⟩ := (check_fails_closed
    (Faults.inject { failLookup := true } (memory newYear)) ⟨[⟨2⟩], none⟩
    ⟨"news", none, none, "see"⟩ teams).failed (Faults.injected "matching_grants") teams rfl
  exact ⟨hall, (check_fails_closed _ _ _ _).exact _ teams hall teams (fun _ _ => Iff.rfl) newYear,
    hcheck rfl, hpermits⟩

end Backend

end Gatehouse
