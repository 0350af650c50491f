import Gatehouse.Proofs.Check.Isolation
import Gatehouse.Proofs.Grant.Purge

/-!
# Identities over a lifetime

From the empty store on, whatever is done with a store comes to calls made on it one after the
other, also the calls of a transaction that is committed, those that apply a scenario, and those
that clean up (`Store.lifeCalls`).  A call that gives an identity gives the next one, and the
counter never goes back, not even when grants are removed (`Operation.given?_eq_some`).  So the
identities that are given come in ascending order (`Store.pairwise_given`); what was removed is not
found again under its identity, and roles, which are never removed, stay where they are.

Identities of roles and of grants are treated alike, by their `Kind`.
-/

set_option autoImplicit false

namespace Gatehouse

/-! ## Identities that are given -/

/-- What identities are given to. -/
inductive Kind where
  | role
  | grant
deriving DecidableEq, Repr

/-- The last identity that was given. -/
def Store.last (s : Store) : Kind → Int32
  | .role => s.lastRole
  | .grant => s.lastGrant

/-- There is something of the kind under the identity. -/
def Store.Has (s : Store) (kind : Kind) (id : Int32) : Prop :=
  match kind with
  | .role => ∃ r ∈ s.roles, r.id = ⟨id⟩
  | .grant => ∃ g ∈ s.grants, g.id = ⟨id⟩

/-- The identity that the call answers with, if it is one that creates something of the kind and if
it succeeds. -/
def Operation.given? (kind : Kind) (s : Store) (now : Stamp) (op : Operation) : Option Int32 :=
  match kind, op with
  | .role, .createRole new =>
    (((Backend.memory now).createRole new).run s).1.toOption.map (·.id.value)
  | .grant, .createGrant d => (((Backend.memory now).createGrant d).run s).1.toOption.map (·.value)
  | _, _ => none

@[inherit_doc Operation.given?]
def Write.given? (kind : Kind) (w : Store) (now : Stamp) (x : Write) : Option Int32 :=
  match kind, x with
  | .role, .insertRole new =>
    (((Transaction.memory now).insertRole new).run w).1.toOption.map (·.id.value)
  | .grant, .insertGrant d =>
    (((Transaction.memory now).insertGrant d).run w).1.toOption.map (·.value)
  | _, _ => none

/-- The identities that calls give, in their order. -/
def Store.given (kind : Kind) : Store → List (Stamp × Operation) → List Int32
  | _, [] => []
  | s, (now, op) :: rest =>
    (op.given? kind s now).toList ++ given kind (op.after (.memory now) s) rest

section Given

variable {kind : Kind} {s : Store} {now : Stamp}

/-- A call of a transaction gives the identity that it would give on the store. -/
theorem Write.given?_operation (x : Write) (w : Store) :
    x.operation.given? kind w now = x.given? kind w now := by
  cases kind <;> cases x <;> rfl

theorem toOption_eq_some_iff {α : Type} {x : Except Error α} {a : α} :
    x.toOption = some a ↔ x = .ok a := by
  cases x <;> simp [Except.toOption]

/-- A call that gives an identity gives the next one, and moves the counter on to it.  What it
creates is there afterwards. -/
theorem Operation.given?_eq_some {op : Operation} {id : Int32}
    (h : op.given? kind s now = some id) :
    id = s.last kind + 1 ∧ (op.after (.memory now) s).last kind = id ∧
      (op.after (.memory now) s).Has kind id := by
  cases kind with
  | role =>
    cases op with
    | createRole new =>
      obtain ⟨role, hrole, rfl⟩ := Option.map_eq_some_iff.1 h
      obtain ⟨t, hinsert, hafter⟩ := Action.exists_of_run_attempt (toOption_eq_some_iff.1 hrole)
      obtain ⟨-, -, rfl, rfl⟩ := Store.insertRole_eq_ok_iff.1 hinsert
      rw [show (createRole new).after (.memory now) s = _ from hafter]
      exact ⟨rfl, rfl, _, Store.mem_roles_insert.2 (.inl rfl), rfl⟩
    | _ => cases h
  | grant =>
    cases op with
    | createGrant d =>
      obtain ⟨grant, hgrant, rfl⟩ := Option.map_eq_some_iff.1 h
      obtain ⟨t, hinsert, hafter⟩ := Action.exists_of_run_attempt (toOption_eq_some_iff.1 hgrant)
      obtain ⟨-, rfl, rfl⟩ := Store.insertGrant_eq_ok_iff.1 hinsert
      rw [show (createGrant d).after (.memory now) s = _ from hafter]
      exact ⟨rfl, rfl, _, Store.mem_grants_insert.2 (.inl rfl), rfl⟩
    | _ => cases h

end Given

/-! ## Calls -/

section Calls

variable {kind : Kind} {s : Store} {calls : List (Stamp × Operation)}

theorem Store.KeepsCounting.last {s t : Store} (h : s.KeepsCounting t) (kind : Kind) :
    s.last kind ≤ t.last kind := by
  cases kind with
  | role => exact h.role
  | grant => exact h.grant

theorem Store.last_le_replay (h : Along (fun u now op => op.Orderly u now) s calls) (kind : Kind) :
    s.last kind ≤ (s.replay calls).last kind :=
  h.invariant (I := fun u => s.last kind ≤ u.last kind)
    (fun _ _ _ hop hu => Int32.le_trans hu (hop.2.last kind)) (Int32.le_refl _)

/-- The identities that orderly calls give are above those given before, and up to the last one. -/
theorem Store.given_bounds (h : Along (fun u now op => op.Orderly u now) s calls) :
    ∀ id ∈ s.given kind calls, s.last kind < id ∧ id ≤ (s.replay calls).last kind := by
  induction calls generalizing s with
  | nil =>
    intro id hid
    cases hid
  | cons c rest ih =>
    obtain ⟨now, op⟩ := c
    obtain ⟨hop, hrest⟩ := h
    have hstep := hop.2.last kind
    intro id hid
    rcases List.mem_append.1 hid with hfirst | hlater
    · obtain ⟨hnext, hlast, -⟩ := op.given?_eq_some (Option.mem_toList.1 hfirst)
      rw [hlast] at hstep
      refine ⟨Int32.lt_of_le_of_ne hstep ?_, hlast ▸ last_le_replay hrest kind⟩
      rw [hnext] at hstep ⊢
      exact ne_next hstep (Int32.le_refl _)
    · obtain ⟨hlow, hhigh⟩ := ih hrest id hlater
      exact ⟨Int32.lt_of_le_of_lt hstep hlow, hhigh⟩

/-- Orderly calls give identities in ascending order. -/
theorem Store.pairwise_given (h : Along (fun u now op => op.Orderly u now) s calls) :
    (s.given kind calls).Pairwise (· < ·) := by
  induction calls generalizing s with
  | nil => exact .nil
  | cons c rest ih =>
    obtain ⟨now, op⟩ := c
    refine List.pairwise_append.2 ⟨?_, ih h.2, fun id hid later hlater => ?_⟩
    · cases op.given? kind s now with
      | none => exact .nil
      | some id => exact List.pairwise_singleton _ _
    · obtain ⟨-, hlast, -⟩ := op.given?_eq_some (Option.mem_toList.1 hid)
      exact hlast ▸ (given_bounds h.2 later hlater).1

theorem Store.given_append (s : Store) (xs ys : List (Stamp × Operation)) :
    s.given kind (xs ++ ys) = s.given kind xs ++ (s.replay xs).given kind ys := by
  induction xs generalizing s with
  | nil => rfl
  | cons c rest ih =>
    rw [List.cons_append, given, given, ih, List.append_assoc]
    rfl

/-- A role stays under its identity. -/
theorem Store.has_role_replay {id : Int32} (hs : s.Has .role id)
    (h : Along (fun u now op => op.Orderly u now) s calls) : (s.replay calls).Has .role id := by
  have hknows : s.Knows ⟨[⟨id⟩], none⟩ := by
    intro i hi
    rw [List.mem_singleton.1 hi]
    exact hs
  exact hknows.replay h ⟨id⟩ List.mem_cons_self

/-- A role that was created is there when all calls have been made. -/
theorem Store.has_role_of_given {id : Int32} (hid : id ∈ s.given .role calls)
    (h : Along (fun u now op => op.Orderly u now) s calls) : (s.replay calls).Has .role id := by
  induction calls generalizing s with
  | nil => cases hid
  | cons c rest ih =>
    obtain ⟨now, op⟩ := c
    rcases List.mem_append.1 hid with hfirst | hlater
    · obtain ⟨-, -, hthere⟩ := op.given?_eq_some (Option.mem_toList.1 hfirst)
      have hkept := has_role_replay hthere h.2
      exact hkept
    · exact ih hlater h.2

/-- What is under an identity that was given before was under it then. -/
theorem Store.Descends.has_grant {s t : Store} (h : s.Descends t) {id : Int32}
    (hid : id ≤ s.lastGrant) (ht : t.Has .grant id) : s.Has .grant id := by
  obtain ⟨g, hg, hgid⟩ := ht
  have hbound : g.id.value ≤ s.lastGrant := by rwa [hgid]
  obtain ⟨old, hold, active, rfl⟩ := h.grants g hg hbound
  exact ⟨old, hold, hgid⟩

end Calls

/-! ## Jobs -/

/-- Something that is done with a store. -/
inductive Job where
  /-- A call, a transaction, or the application of a scenario or of a role of one. -/
  | act (a : Act)
  /-- The grants on an instance of an item are cleaned up. -/
  | purge (now : Stamp) (area item : String) (itemId : Int32)

/-- The identities that calls of a transaction are answered with. -/
def Write.givenAll (kind : Kind) : Store → List (Stamp × Write) → List Int32
  | _, [] => []
  | w, (now, x) :: rest =>
    (x.given? kind w now).toList ++ givenAll kind (x.after (.memory now) w) rest

/-- The identities given by an activity that takes effect; a transaction that is dropped gives
none. -/
def Activity.given (kind : Kind) (s : Store) : Activity → List Int32
  | .call now op => (op.given? kind s now).toList
  | .transaction writes true => Write.givenAll kind s writes
  | .transaction _ false => []

namespace Job

/-- The store after a job. -/
def after (s : Store) : Job → Store
  | .act a => a.after s
  | .purge now area item itemId => (((Backend.memory now).purge area item itemId false).run s).2

/-- The calls on the store that a job comes to. -/
def calls (s : Store) : Job → List (Stamp × Operation)
  | .act a => a.calls s
  | .purge now area item itemId =>
    (s.grantsIn (.single area item itemId)).map fun g => (now, .deleteGrant g.id)

/-- The identities that a job gives, in their order. -/
def given (kind : Kind) (s : Store) : Job → List Int32
  | .act (.activity a) => a.given kind s
  | .act (.apply now l _ call) => (call.activity now l s).given kind s
  | .purge _ _ _ _ => []

/-- No counter wraps around, and only drafts are stored that can be made. -/
def Orderly (s : Store) : Job → Prop
  | .act a => a.Orderly s
  | .purge _ _ _ _ => True

end Job

section Jobs

variable {kind : Kind} {s : Store}

theorem Activity.given_eq (a : Activity) (s : Store) : a.given kind s = s.given kind a.calls := by
  match a with
  | .call now op => exact (List.append_nil _).symm
  | .transaction writes false => rfl
  | .transaction writes true =>
    rw [given, calls]
    induction writes generalizing s with
    | nil => rfl
    | cons x rest ih =>
      rw [Write.givenAll, List.map_cons, Store.given, x.2.given?_operation, x.2.after_operation, ih]

theorem Along.of_forall {P : Store → Stamp → Operation → Prop} {calls : List (Stamp × Operation)}
    (h : ∀ c ∈ calls, ∀ u, P u c.1 c.2) : Along P s calls := by
  induction calls generalizing s with
  | nil => trivial
  | cons c rest ih =>
    exact ⟨h c List.mem_cons_self s, ih fun c' hc' => h c' (List.mem_cons_of_mem c hc')⟩

/-- Cleaning up removes one grant after the other, and goes on whatever the answer. -/
theorem after_purgeEach (now : Stamp) (gs : List Grant) (r : PurgeReport) (s : Store) :
    (((Backend.memory now).purgeEach gs r).run s).2 =
      s.replay (gs.map fun g => (now, .deleteGrant g.id)) := by
  induction gs generalizing r s with
  | nil => rfl
  | cons g rest ih =>
    have hdelete : ((Backend.memory now).deleteGrant g.id).run s =
        (.ok (s.grant? g.id).isSome, (s.deleteGrant g.id).2) := rfl
    rw [Backend.run_purgeEach_cons, hdelete]
    cases (s.grant? g.id).isSome with
    | true => exact ih _ _
    | false => exact ih _ _

/-- Removing grants gives no identity. -/
theorem Store.given_deleteGrants (s : Store) (now : Stamp) (gs : List Grant) :
    s.given kind (gs.map fun g => (now, .deleteGrant g.id)) = [] := by
  induction gs generalizing s with
  | nil => rfl
  | cons g rest ih =>
    have hnone : (Operation.deleteGrant g.id).given? kind s now = none := by cases kind <;> rfl
    rw [List.map_cons, given, hnone, ih]
    rfl

/-- Whoever has no roles is not concerned by what is done to roles. -/
theorem Store.Counted.apart_nobody (hs : s.Counted) {names : String → Prop} :
    s.Apart {} names where
  counted := hs
  knows id hid := by cases hid
  avoids r hr hname hid := by cases hid

namespace Job

theorem after_eq_replay (j : Job) (s : Store) : j.after s = s.replay (j.calls s) := by
  cases j with
  | act a => exact a.after_eq_replay s
  | purge now area item itemId => exact after_purgeEach now _ _ s

theorem given_eq (j : Job) (s : Store) : j.given kind s = s.given kind (j.calls s) := by
  match j with
  | .act (.activity a) => exact a.given_eq s
  | .act (.apply now l run call) => exact (call.activity now l s).given_eq s
  | .purge now area item itemId =>
    exact (s.given_deleteGrants now _).symm

theorem orderly_calls (hs : s.ReachableInRange) {j : Job} (h : j.Orderly s) :
    Along (fun u now op => op.Orderly u now) s (j.calls s) := by
  match j with
  | .act (.activity a) => exact h
  | .act (.apply now l run call) =>
    have hspares := call.spares_activity now l (fun sc ds hplan => hs.counted.apart_nobody) h
    exact hspares.imp fun u now op hop => hop.1
  | .purge now area item itemId =>
    refine .of_forall fun c hc u => ?_
    obtain ⟨g, -, rfl⟩ := List.mem_map.1 hc
    exact ⟨trivial, Int32.le_refl _, Int32.le_refl _⟩

end Job

/-! ## All that is done -/

/-- The store after some jobs. -/
def Store.afterJobs (s : Store) (jobs : List Job) : Store := jobs.foldl Job.after s

/-- The identities that jobs give, in their order. -/
def Store.givenByJobs (kind : Kind) : Store → List Job → List Int32
  | _, [] => []
  | s, j :: rest => j.given kind s ++ givenByJobs kind (j.after s) rest

/-- The jobs are orderly, each on the store that it finds. -/
def OrderlyJobs : Store → List Job → Prop
  | _, [] => True
  | s, j :: rest => j.Orderly s ∧ OrderlyJobs (j.after s) rest

/-- The calls on the store that jobs come to. -/
def Store.lifeCalls : Store → List Job → List (Stamp × Operation)
  | _, [] => []
  | s, j :: rest => j.calls s ++ lifeCalls (j.after s) rest

variable {jobs : List Job}

theorem Store.afterJobs_eq_replay (s : Store) (jobs : List Job) :
    s.afterJobs jobs = s.replay (s.lifeCalls jobs) := by
  induction jobs generalizing s with
  | nil => rfl
  | cons j rest ih =>
    rw [lifeCalls, replay_append, ← j.after_eq_replay, ← ih]
    rfl

theorem Store.givenByJobs_eq (s : Store) (jobs : List Job) :
    s.givenByJobs kind jobs = s.given kind (s.lifeCalls jobs) := by
  induction jobs generalizing s with
  | nil => rfl
  | cons j rest ih =>
    rw [givenByJobs, lifeCalls, given_append, ← j.after_eq_replay, ← j.given_eq, ih]

theorem Store.afterJobs_append (s : Store) (xs ys : List Job) :
    s.afterJobs (xs ++ ys) = (s.afterJobs xs).afterJobs ys := List.foldl_append

namespace OrderlyJobs

/-- Orderly jobs come to orderly calls. -/
theorem lifeCalls (h : OrderlyJobs s jobs) (hs : s.ReachableInRange) :
    Along (fun u now op => op.Orderly u now) s (s.lifeCalls jobs) := by
  induction jobs generalizing s with
  | nil => trivial
  | cons j rest ih =>
    have hfirst := j.orderly_calls hs h.1
    have hafter := hs.replay hfirst
    rw [← j.after_eq_replay] at hafter
    refine hfirst.append ?_
    rw [← j.after_eq_replay]
    exact ih h.2 hafter

theorem of_append {xs ys : List Job} (h : OrderlyJobs s (xs ++ ys)) :
    OrderlyJobs s xs ∧ OrderlyJobs (s.afterJobs xs) ys := by
  induction xs generalizing s with
  | nil => exact ⟨trivial, h⟩
  | cons j rest ih =>
    obtain ⟨hrest, hys⟩ := ih h.2
    exact ⟨⟨h.1, hrest⟩, hys⟩

variable (h : OrderlyJobs s jobs) (hs : s.ReachableInRange)
include h hs

theorem reachable : (s.afterJobs jobs).ReachableInRange := by
  rw [Store.afterJobs_eq_replay]
  exact hs.replay (h.lifeCalls hs)

theorem pairwise_given (kind : Kind) : (s.givenByJobs kind jobs).Pairwise (· < ·) := by
  rw [Store.givenByJobs_eq]
  exact Store.pairwise_given (h.lifeCalls hs)

theorem given_le : ∀ id ∈ s.givenByJobs kind jobs, id ≤ (s.afterJobs jobs).last kind := by
  rw [Store.givenByJobs_eq, Store.afterJobs_eq_replay]
  exact fun id hid => (Store.given_bounds (h.lifeCalls hs) id hid).2

theorem has_role_of_given {id : Int32} (hid : id ∈ s.givenByJobs .role jobs) :
    (s.afterJobs jobs).Has .role id := by
  rw [Store.givenByJobs_eq] at hid
  rw [Store.afterJobs_eq_replay]
  exact Store.has_role_of_given hid (h.lifeCalls hs)

theorem has_role {id : Int32} (hid : s.Has .role id) : (s.afterJobs jobs).Has .role id := by
  rw [Store.afterJobs_eq_replay]
  exact Store.has_role_replay hid (h.lifeCalls hs)

theorem has_grant {id : Int32} (hid : id ≤ s.lastGrant) (ht : (s.afterJobs jobs).Has .grant id) :
    s.Has .grant id := by
  rw [Store.afterJobs_eq_replay] at ht
  exact ((Store.Descends.refl s).replay (h.lifeCalls hs)).has_grant hid ht

end OrderlyJobs

end Jobs

/-- **Identities are never given twice.**  Whatever is done with a store from the beginning on, as
long as no counter comes to its end, the identities of roles and those of grants are given in
ascending order.  Once there is nothing under an identity any more, however it was removed, nothing
will ever be there again; and a role stays under its identity for ever. -/
theorem identities_are_never_recycled {jobs : List Job} (h : OrderlyJobs .empty jobs) :
    (∀ kind, (Store.empty.givenByJobs kind jobs).Pairwise (· < ·)) ∧
    ∀ before later, jobs = before ++ later →
      (∀ kind, ∀ id ∈ Store.empty.givenByJobs kind before,
        ¬(Store.empty.afterJobs before).Has kind id → ¬(Store.empty.afterJobs jobs).Has kind id) ∧
      ∀ id ∈ Store.empty.givenByJobs .role before, (Store.empty.afterJobs jobs).Has .role id := by
  refine ⟨h.pairwise_given .empty, ?_⟩
  rintro before later rfl
  obtain ⟨hbefore, hlater⟩ := h.of_append
  have hreach := hbefore.reachable .empty
  rw [Store.afterJobs_append]
  constructor
  · intro kind id hid hgone hagain
    cases kind with
    | role => exact hgone (hbefore.has_role_of_given .empty hid)
    | grant =>
      have hold := hbefore.given_le .empty id hid
      exact hgone (hlater.has_grant hreach hold hagain)
  · intro id hid
    exact hlater.has_role hreach (hbefore.has_role_of_given .empty hid)

/-- The writers get a grant on the news and one on the ninth draft; a transaction that stores a
third one is dropped.  The draft is cleaned up, and then the scenario for the press replaces the
grants of the writers and creates the printers. -/
def pressLife : List Job :=
  [.act (.activity (.call newYear (.createRole { name := "writers" }))),
    .act (.activity (.call newYear (.createGrant (.new (.role ⟨1⟩) "news" "see")))),
    .act (.activity (.call newYear
      (.createGrant ((Draft.new (.role ⟨1⟩) "news" "see").onInstance "draft" 9)))),
    .act (.activity
      (.transaction [(newYear, .insertGrant (.new (.role ⟨1⟩) "news" "post"))] false)),
    .purge newYear "news" "draft" 9,
    .act (.apply newYear .empty "1" (.applyScenario press))]

/-- The identities of the grants go on from the one of the draft, which is not used again. -/
theorem identities_are_never_recycled_press :
    Store.empty.givenByJobs .grant pressLife = [1, 2, 3, 4, 5, 6, 7] ∧
    Store.empty.givenByJobs .role pressLife = [1, 2] ∧
    (Store.empty.givenByJobs .grant pressLife).Pairwise (· < ·) ∧
    ¬(Store.empty.afterJobs (pressLife.take 5)).Has .grant 2 ∧
    ¬(Store.empty.afterJobs pressLife).Has .grant 2 ∧
    (Store.empty.afterJobs pressLife).Has .role 1 := by
  have horderly : OrderlyJobs .empty pressLife := by
    refine ⟨⟨⟨trivial, ?_⟩, trivial⟩, ⟨⟨.new _ _ _, ?_⟩, trivial⟩,
      ⟨⟨(Draft.Made.new _ _ _).onInstance _ _, ?_⟩, trivial⟩, trivial, trivial, ?_, trivial⟩
    · decide +kernel
    · decide +kernel
    · decide +kernel
    · show Along _ _ (Activity.calls _)
      decide +kernel
  have hgone : ¬∃ g ∈ (Store.empty.afterJobs (pressLife.take 5)).grants.rows, g.id = ⟨2⟩ := by
    decide +kernel
  obtain ⟨hascending, hsplit⟩ := identities_are_never_recycled horderly
  obtain ⟨hnever, hroles⟩ := hsplit (pressLife.take 5) (pressLife.drop 5) rfl
  exact ⟨by decide +kernel, by decide +kernel, hascending .grant, hgone,
    hnever .grant 2 (by decide +kernel) hgone, hroles 1 (by decide +kernel)⟩

end Gatehouse
