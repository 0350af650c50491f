import Gatehouse.Grant.Management
import Gatehouse.Proofs.Store.Identity

/-!
# Cleaning up while others are at work

`Backend.purge` lists the grants on an instance of an item and then removes them one by one.  In
between others can do what they like with the store, and a removal can fail.  `Backend.busy` is a
store on which that happens: its plan says for each grant what others do before it is to be removed,
and whether the removal fails.  The state of this backend also records what happened.

Two things make the report of a clean-up right all the same.  Identities are not given twice, so
that whatever is found under a listed identity is the grant that was listed, or this grant switched
(`Store.Descends`).  And each listed grant gets one turn, in the order of the listing, with one of
three endings (`Purges`).
-/

set_option autoImplicit false

namespace Gatehouse

open Std

/-! ## What happens meanwhile -/

/-- Something that happens to the store during a clean-up. -/
inductive Happening where
  /-- Others do something. -/
  | others (a : Activity)
  /-- The clean-up removes a grant, if it is there. -/
  | removal (id : GrantId)
deriving DecidableEq, Repr

namespace Happening

/-- The store after it happened. -/
def after (s : Store) : Happening → Store
  | .others a => a.after s
  | .removal id => (s.deleteGrant id).2

/-- What others do is orderly. -/
def Orderly (s : Store) : Happening → Prop
  | .others a => a.Orderly s
  | .removal _ => True

end Happening

/-- The store after all that happened. -/
def Store.through (s : Store) (past : List Happening) : Store := past.foldl Happening.after s

theorem Store.through_append (s : Store) (xs ys : List Happening) :
    s.through (xs ++ ys) = (s.through xs).through ys := List.foldl_append

/-- Whatever happened has the property in the store that it met. -/
def Throughout (P : Store → Happening → Prop) : Store → List Happening → Prop
  | _, [] => True
  | s, x :: rest => P s x ∧ Throughout P (x.after s) rest

/-- Something that happened has the property in the store that it met. -/
def Sometime (P : Store → Happening → Prop) : Store → List Happening → Prop
  | _, [] => False
  | s, x :: rest => P s x ∨ Sometime P (x.after s) rest

section History

variable {P Q : Store → Happening → Prop} {s : Store} {xs ys : List Happening}

theorem throughout_append :
    Throughout P s (xs ++ ys) ↔ Throughout P s xs ∧ Throughout P (s.through xs) ys := by
  induction xs generalizing s with
  | nil => simp [Throughout, Store.through]
  | cons x rest ih => exact (and_congr_right fun _ => ih).trans and_assoc.symm

theorem sometime_append :
    Sometime P s (xs ++ ys) ↔ Sometime P s xs ∨ Sometime P (s.through xs) ys := by
  induction xs generalizing s with
  | nil => simp [Sometime, Store.through]
  | cons x rest ih => exact (or_congr_right ih).trans or_assoc.symm

theorem Throughout.imp (h : Throughout P s xs) (hpq : ∀ u x, P u x → Q u x) :
    Throughout Q s xs := by
  induction xs generalizing s with
  | nil => trivial
  | cons x rest ih => exact ⟨hpq s x h.1, ih h.2⟩

theorem Throughout.and (hp : Throughout P s xs) (hq : Throughout Q s xs) :
    Throughout (fun u x => P u x ∧ Q u x) s xs := by
  induction xs generalizing s with
  | nil => trivial
  | cons x rest ih => exact ⟨⟨hp.1, hq.1⟩, ih hp.2 hq.2⟩

end History

/-- What is under an identity that was given before is an old grant, throughout all that happens. -/
theorem Store.Descends.throughout {s t : Store} {past : List Happening} (h : s.Descends t)
    (hpast : Throughout (fun u x => x.Orderly u) t past) :
    Throughout (fun u _ => s.Descends u) t past := by
  induction past generalizing t with
  | nil => trivial
  | cons x rest ih =>
    refine ⟨h, ih ?_ hpast.2⟩
    cases x with
    | others a => exact h.activity hpast.1
    | removal id => exact h.effect (.grantsRemoved _) ⟨Int32.le_refl _, Int32.le_refl _⟩

/-! ## A busy store -/

/-- What comes in between before a grant is removed. -/
structure Disturbance where
  /-- What others do. -/
  others : List Activity := []
  /-- The error with which the removal fails. -/
  fault : Option Error := none

/-- What others do, as it happens. -/
def Disturbance.happenings (d : Disturbance) : List Happening := d.others.map .others

/-- A store on which others do something before each removal of a grant, and on which the removal
may fail and then does nothing.  Its state records what happens. -/
def Backend.busy (now : Stamp) (plan : GrantId → Disturbance) :
    Backend (Store × List Happening) Store :=
  { (memory now).onFirst with
    deleteGrant := fun id (s, past) =>
      let met := s.through (plan id).happenings
      let past := past ++ (plan id).happenings
      match (plan id).fault with
      | some e => (.error e, (met, past))
      | none =>
        let (there, left) := ((memory now).deleteGrant id).run met
        (there, (left, past ++ [.removal id])) }

theorem through_happenings_removal (s : Store) (hs past : List Happening) (id : GrantId) :
    s.through (hs ++ .removal id :: past) = ((s.through hs).deleteGrant id).2.through past :=
  Store.through_append ..

/-- The endings of grants that were to be removed. -/
structure Endings where
  /-- They were removed. -/
  deleted : List GrantId := []
  /-- They were gone already. -/
  skipped : List GrantId := []
  /-- Their removal failed. -/
  failed : List GrantId := []

/-- Removing grants one after the other: what happens in the course of it, and what becomes of each
grant. -/
inductive Purges (plan : GrantId → Disturbance) :
    Store → List GrantId → List Happening → Endings → Prop
  /-- No grant is left. -/
  | nil (s : Store) : Purges plan s [] [] {}
  /-- The next grant is there and is removed. -/
  | deleted {s : Store} {id : GrantId} {ids : List GrantId} {past : List Happening} {o : Endings}
      (works : (plan id).fault = none)
      (there : ((s.through (plan id).happenings).grant? id).isSome = true)
      (rest : Purges plan ((s.through (plan id).happenings).deleteGrant id).2 ids past o) :
      Purges plan s (id :: ids) ((plan id).happenings ++ .removal id :: past)
        { o with deleted := id :: o.deleted }
  /-- The next grant is gone. -/
  | skipped {s : Store} {id : GrantId} {ids : List GrantId} {past : List Happening} {o : Endings}
      (works : (plan id).fault = none)
      (gone : (s.through (plan id).happenings).grant? id = none)
      (rest : Purges plan ((s.through (plan id).happenings).deleteGrant id).2 ids past o) :
      Purges plan s (id :: ids) ((plan id).happenings ++ .removal id :: past)
        { o with skipped := id :: o.skipped }
  /-- Removing the next grant fails. -/
  | failed {s : Store} {id : GrantId} {ids : List GrantId} {past : List Happening} {o : Endings}
      (e : Error) (fails : (plan id).fault = some e)
      (rest : Purges plan (s.through (plan id).happenings) ids past o) :
      Purges plan s (id :: ids) ((plan id).happenings ++ past) { o with failed := id :: o.failed }

/-- The report goes on with what became of further grants. -/
def PurgeReport.adding (r : PurgeReport) (o : Endings) : PurgeReport :=
  { r with
    deleted := r.deleted ++ o.deleted
    skipped := r.skipped ++ o.skipped
    failed := r.failed ++ o.failed }

/-- What becomes of a grant is reported, and the next grant has its turn. -/
theorem Backend.run_purgeEach_cons {σ τ : Type} (b : Backend σ τ) (g : Grant) (rest : List Grant)
    (r : PurgeReport) (s : σ) :
    (b.purgeEach (g :: rest) r).run s = match (b.deleteGrant g.id).run s with
      | (.ok true, t) => (b.purgeEach rest { r with deleted := r.deleted ++ [g.id] }).run t
      | (.ok false, t) => (b.purgeEach rest { r with skipped := r.skipped ++ [g.id] }).run t
      | (.error _, t) => (b.purgeEach rest { r with failed := r.failed ++ [g.id] }).run t := by
  rw [purgeEach, Action.run_bind, Action.run_tryCatch, Action.run_bind]
  rcases (b.deleteGrant g.id).run s with ⟨e | _ | _, t⟩ <;> rfl

section Run

variable (now : Stamp) (plan : GrantId → Disturbance)

/-- The removal of a grant on a busy store. -/
theorem run_deleteGrant_busy (id : GrantId) (s : Store) (past : List Happening) :
    ((Backend.busy now plan).deleteGrant id).run (s, past) =
      match (plan id).fault with
      | some e => (.error e, (s.through (plan id).happenings, past ++ (plan id).happenings))
      | none =>
        (.ok ((s.through (plan id).happenings).grant? id).isSome,
          (((s.through (plan id).happenings).deleteGrant id).2,
            past ++ (plan id).happenings ++ [.removal id])) := by
  show (match (plan id).fault with | some e => _ | none => _) = _
  cases (plan id).fault <;> rfl

/-- Removing grants on a busy store does not fail, whatever happens. -/
theorem run_purgeEach_busy (gs : List Grant) (r : PurgeReport) (s : Store)
    (past : List Happening) :
    ∃ new o, Purges plan s (gs.map (·.id)) new o ∧
      ((Backend.busy now plan).purgeEach gs r).run (s, past) =
        (.ok (r.adding o), (s.through new, past ++ new)) := by
  induction gs generalizing r s past with
  | nil => exact ⟨[], {}, .nil s, by simp [Backend.purgeEach, PurgeReport.adding, Store.through]⟩
  | cons g rest ih =>
    have hdelete := run_deleteGrant_busy now plan g.id s past
    rw [Backend.run_purgeEach_cons]
    cases hfault : (plan g.id).fault with
    | some e =>
      rw [hfault] at hdelete
      obtain ⟨new, o, hnew, hrun⟩ := ih { r with failed := r.failed ++ [g.id] } _ _
      refine ⟨_, _, .failed e hfault hnew, ?_⟩
      simp only [hdelete]
      rw [hrun]
      simp [PurgeReport.adding, Store.through_append]
    | none =>
      rw [hfault] at hdelete
      cases hthere : (s.through (plan g.id).happenings).grant? g.id with
      | some found =>
        obtain ⟨new, o, hnew, hrun⟩ := ih { r with deleted := r.deleted ++ [g.id] }
          ((s.through (plan g.id).happenings).deleteGrant g.id).2
          (past ++ (plan g.id).happenings ++ [.removal g.id])
        refine ⟨_, _, .deleted hfault (by rw [hthere]; rfl) hnew, ?_⟩
        simp only [hdelete, hthere, Option.isSome_some]
        rw [hrun]
        simp [PurgeReport.adding, through_happenings_removal]
      | none =>
        obtain ⟨new, o, hnew, hrun⟩ := ih { r with skipped := r.skipped ++ [g.id] }
          ((s.through (plan g.id).happenings).deleteGrant g.id).2
          (past ++ (plan g.id).happenings ++ [.removal g.id])
        refine ⟨_, _, .skipped hfault hthere hnew, ?_⟩
        simp only [hdelete, hthere, Option.isSome_none]
        rw [hrun]
        simp [PurgeReport.adding, through_happenings_removal]

end Run

/-! ## What becomes of the grants -/

section Gone

variable {s : Store} {id : GrantId}

theorem mem_deleteGrant {g : Grant} :
    g ∈ (s.deleteGrant id).2.grants ↔ g ∈ s.grants ∧ g.id ≠ id := by
  show g ∈ s.grants.filter _ ↔ _
  rw [Table.mem_filter, bne_iff_ne]

/-- Removing a grant does not take another one away. -/
theorem grant?_deleteGrant_of_ne {id' : GrantId} (h : id' ≠ id) :
    (s.deleteGrant id).2.grant? id' = s.grant? id' := by
  refine Option.ext fun g => ?_
  rw [Store.grant?_eq_some_iff, Store.grant?_eq_some_iff, mem_deleteGrant]
  constructor
  · rintro ⟨⟨hg, -⟩, hid⟩
    exact ⟨hg, hid⟩
  · rintro ⟨hg, rfl⟩
    exact ⟨⟨hg, h⟩, rfl⟩

theorem grant?_deleteGrant_self : (s.deleteGrant id).2.grant? id = none := by
  rw [Option.eq_none_iff_forall_ne_some]
  intro g hg
  obtain ⟨hmem, hid⟩ := Store.grant?_eq_some_iff.1 hg
  exact (mem_deleteGrant.1 hmem).2 hid

/-- A grant was there, and what happened took it away. -/
def Happening.Takes (id : GrantId) (s : Store) (x : Happening) : Prop :=
  (s.grant? id).isSome = true ∧ (x.after s).grant? id = none

theorem isSome_grant?_of_mem {g : Grant} (hg : g ∈ s.grants) (hid : g.id = id) :
    (s.grant? id).isSome = true := by
  rw [Store.grant?_eq_some_iff.2 ⟨hg, hid⟩]
  rfl

/-- A grant that was there is still there after others were at work, or one of them took it away. -/
theorem Disturbance.sometime_takes (d : Disturbance) (hthere : (s.grant? id).isSome = true) :
    Sometime (fun u x => (∃ a, x = .others a) ∧ x.Takes id u) s d.happenings ∨
      ((s.through d.happenings).grant? id).isSome = true := by
  rw [happenings]
  induction d.others generalizing s with
  | nil => exact .inr hthere
  | cons a rest ih =>
    cases hnext : ((Happening.others a).after s).grant? id with
    | none => exact .inl (.inl ⟨⟨a, rfl⟩, hthere, hnext⟩)
    | some g => exact (ih (by rw [hnext]; rfl)).imp_left .inr

end Gone

/-- What holds of all that others do holds throughout what they do in between. -/
theorem Disturbance.throughout {P : Store → Happening → Prop} (d : Disturbance)
    (h : ∀ u a, P u (.others a)) (s : Store) : Throughout P s d.happenings := by
  rw [happenings]
  induction d.others generalizing s with
  | nil => trivial
  | cons a rest ih => exact ⟨h s a, ih _⟩

namespace Purges

variable {plan : GrantId → Disturbance} {s : Store} {ids : List GrantId} {past : List Happening}
  {o : Endings}

theorem sublists (h : Purges plan s ids past o) :
    o.deleted.Sublist ids ∧ o.skipped.Sublist ids ∧ o.failed.Sublist ids := by
  induction h with
  | nil s => exact ⟨.slnil, .slnil, .slnil⟩
  | deleted works there rest ih => exact ⟨ih.1.cons_cons _, ih.2.1.cons _, ih.2.2.cons _⟩
  | skipped works gone rest ih => exact ⟨ih.1.cons _, ih.2.1.cons_cons _, ih.2.2.cons _⟩
  | failed e fails rest ih => exact ⟨ih.1.cons _, ih.2.1.cons _, ih.2.2.cons_cons _⟩

/-- Each grant has one of the three endings. -/
theorem perm (h : Purges plan s ids past o) :
    (o.deleted ++ (o.skipped ++ o.failed)).Perm ids := by
  induction h with
  | nil s => exact .nil
  | deleted works there rest ih => exact ih.cons _
  | skipped works gone rest ih => exact List.perm_middle.trans (ih.cons _)
  | failed e fails rest ih =>
    rw [← List.append_assoc] at ih ⊢
    exact List.perm_middle.trans (ih.cons _)

/-- A removal fails only where the plan says so. -/
theorem fault_of_failed (h : Purges plan s ids past o) :
    ∀ id ∈ o.failed, ∃ e, (plan id).fault = some e := by
  induction h with
  | nil s => exact fun _ hid => nomatch hid
  | deleted works there rest ih => exact ih
  | skipped works gone rest ih => exact ih
  | failed e fails rest ih => exact List.forall_mem_cons.2 ⟨⟨e, fails⟩, ih⟩

/-- A grant that the clean-up finds and removes is reported as removed. -/
theorem throughout_deleted (h : Purges plan s ids past o) :
    Throughout (fun u x => ∀ id, x = .removal id → (u.grant? id).isSome = true → id ∈ o.deleted)
      s past := by
  induction h with
  | nil s => trivial
  | @deleted s id ids past o works there rest ih =>
    refine throughout_append.2 ⟨(plan id).throughout (fun u a id' hx => nomatch hx) s, ?_, ?_⟩
    · rintro id' ⟨⟩ -
      exact List.mem_cons_self
    · exact ih.imp fun u x hu id' hx hthere => List.mem_cons_of_mem id (hu id' hx hthere)
  | @skipped s id ids past o works gone rest ih =>
    refine throughout_append.2 ⟨(plan id).throughout (fun u a id' hx => nomatch hx) s, ?_, ih⟩
    rintro id' ⟨⟩ hthere
    rw [gone] at hthere
    cases hthere
  | @failed s id ids past o e fails rest ih =>
    exact throughout_append.2 ⟨(plan id).throughout (fun u a id' hx => nomatch hx) s, ih⟩

/-- A grant that is reported as removed was found and removed. -/
theorem sometime_deleted (h : Purges plan s ids past o) :
    ∀ id ∈ o.deleted, Sometime (fun u x => x = .removal id ∧ x.Takes id u) s past := by
  induction h with
  | nil s => exact fun _ hid => nomatch hid
  | deleted works there rest ih =>
    intro id hid
    refine sometime_append.2 (.inr ?_)
    rcases List.mem_cons.1 hid with rfl | hid
    · exact .inl ⟨rfl, there, grant?_deleteGrant_self⟩
    · exact .inr (ih id hid)
  | skipped works gone rest ih => exact fun id hid => sometime_append.2 (.inr (.inr (ih id hid)))
  | failed e fails rest ih => exact fun id hid => sometime_append.2 (.inr (ih id hid))

/-- A grant that is reported as gone was taken away by others, if it was there at first. -/
theorem sometime_skipped (h : Purges plan s ids past o) (hnodup : ids.Nodup) :
    ∀ id ∈ o.skipped, (s.grant? id).isSome = true →
      Sometime (fun u x => (∃ a, x = .others a) ∧ x.Takes id u) s past := by
  induction h with
  | nil s => exact fun _ hid => nomatch hid
  | @deleted s first ids past o works there rest ih =>
    obtain ⟨hfirst, hids⟩ := List.nodup_cons.1 hnodup
    intro id hid hstart
    have hne : id ≠ first := fun heq => hfirst (heq ▸ rest.sublists.2.1.subset hid)
    rcases (plan first).sometime_takes hstart with htaken | hmet
    · exact sometime_append.2 (.inl htaken)
    · rw [← grant?_deleteGrant_of_ne hne] at hmet
      exact sometime_append.2 (.inr (.inr (ih hids id hid hmet)))
  | @skipped s first ids past o works gone rest ih =>
    intro id hid hstart
    rcases (plan first).sometime_takes hstart with htaken | hmet
    · exact sometime_append.2 (.inl htaken)
    · have hne : id ≠ first := fun heq => by rw [heq, gone] at hmet; cases hmet
      have hid : id ∈ o.skipped := (List.mem_cons.1 hid).resolve_left hne
      rw [← grant?_deleteGrant_of_ne hne] at hmet
      exact sometime_append.2 (.inr (.inr (ih (List.nodup_cons.1 hnodup).2 id hid hmet)))
  | @failed s first ids past o e fails rest ih =>
    intro id hid hstart
    rcases (plan first).sometime_takes hstart with htaken | hmet
    · exact sometime_append.2 (.inl htaken)
    · exact sometime_append.2 (.inr (ih (List.nodup_cons.1 hnodup).2 id hid hmet))

end Purges

/-! ## The grants listed -/

section Listed

variable {s : Store} {scope : Scope}

theorem mem_grantsIn {g : Grant} :
    g ∈ s.grantsIn scope ↔ g ∈ s.grants ∧ scope.meets g.toTerms = true := List.mem_filter

theorem ascending_grantsIn (s : Store) (scope : Scope) :
    Ascending compare ((s.grantsIn scope).map (·.id)) :=
  List.pairwise_map.2 (s.grants.ascending.filter _)

theorem mem_ids_grantsIn {id : GrantId} :
    id ∈ (s.grantsIn scope).map (·.id) ↔
      ∃ g ∈ s.grants, g.id = id ∧ scope.meets g.toTerms = true := by
  rw [List.mem_map]
  constructor
  · rintro ⟨g, hg, hid⟩
    obtain ⟨hmem, hmeets⟩ := mem_grantsIn.1 hg
    exact ⟨g, hmem, hid, hmeets⟩
  · rintro ⟨g, hmem, hid, hmeets⟩
    exact ⟨g, mem_grantsIn.2 ⟨hmem, hmeets⟩, hid⟩

/-- Among the grants stored an identity in the listing is that of a grant in the scope. -/
theorem mem_ids_grantsIn_iff {g : Grant} (hg : g ∈ s.grants) :
    g.id ∈ (s.grantsIn scope).map (·.id) ↔ scope.meets g.toTerms = true := by
  rw [mem_ids_grantsIn]
  constructor
  · rintro ⟨g', hg', hid, hmeets⟩
    rwa [← Table.eq_of_mem hg' hg (Store.byId_grant_eq_iff.2 hid)]
  · exact fun hmeets => ⟨g, hg, rfl, hmeets⟩

theorem ascending_userOwners (gs : List Grant) : Ascending compare (Backend.userOwners gs) :=
  Table.ascending _

theorem mem_userOwners {gs : List Grant} {user : UserId} :
    user ∈ Backend.userOwners gs ↔ ∃ g ∈ gs, g.owner = .user user := by
  have howner : ∀ g : Grant, g.owner.user? = some user ↔ g.owner = .user user := fun g => by
    cases g.owner <;> simp [Owner.user?]
  rw [Backend.userOwners, ← Table.mem_def, Table.mem_ofList, List.mem_filterMap]
  exact exists_congr fun g => and_congr_right fun _ => howner g

end Listed

/-! ## Clean-ups -/

/-- What a report of a clean-up tells about the grants that were in the scope at first, and about
what happened since then. -/
structure PurgeReport.Exact (plan : GrantId → Disturbance) (scope : Scope) (s : Store)
    (past : List Happening) (r : PurgeReport) : Prop where
  real : r.dryRun = false
  deleted : Ascending compare r.deleted
  skipped : Ascending compare r.skipped
  failed : Ascending compare r.failed
  /-- No grant has two endings. -/
  nodup : (r.deleted ++ (r.skipped ++ r.failed)).Nodup
  /-- The grants that were in the scope have an ending, and no others have. -/
  all : ∀ id, id ∈ r.deleted ∨ id ∈ r.skipped ∨ id ∈ r.failed ↔
    ∃ g ∈ s.grants, g.id = id ∧ scope.meets g.toTerms = true
  /-- What the clean-up removes is reported, is in the scope, and was there at first. -/
  removes : Throughout (fun u x => ∀ id, x = .removal id → ∀ g ∈ u.grants,
    g ∉ (x.after u).grants → g.id ∈ r.deleted ∧ scope.meets g.toTerms = true ∧
      ∃ old ∈ s.grants, ∃ active, g = old.inForce active) s past
  /-- What is reported as removed the clean-up did remove. -/
  removed : ∀ id ∈ r.deleted, Sometime (fun u x => x = .removal id ∧ x.Takes id u) s past
  /-- What is reported as gone was removed by others. -/
  gone : ∀ id ∈ r.skipped, Sometime (fun u x => (∃ a, x = .others a) ∧ x.Takes id u) s past
  /-- Where a removal is reported to have failed there was an error. -/
  fault : ∀ id ∈ r.failed, ∃ e, (plan id).fault = some e
  participants : Ascending compare r.participants
  /-- The participants are the users who owned one of the grants. -/
  mem_participants : ∀ user, user ∈ r.participants ↔
    ∃ g ∈ s.grants, scope.meets g.toTerms = true ∧ g.owner = .user user

section Clean

variable (now : Stamp) {plan : GrantId → Disturbance} {s : Store} {scope : Scope}

/-- Removing the grants listed, whatever happens meanwhile, leads to an exact report. -/
theorem Purges.exact {past : List Happening} {o : Endings}
    (h : Purges plan s ((s.grantsIn scope).map (·.id)) past o) (hs : s.ReachableInRange)
    (hpast : Throughout (fun u x => x.Orderly u) s past) :
    PurgeReport.Exact plan scope s past
      (PurgeReport.adding ⟨false, [], [], [], Backend.userOwners (s.grantsIn scope)⟩ o) where
  real := rfl
  deleted := (ascending_grantsIn s scope).sublist h.sublists.1
  skipped := (ascending_grantsIn s scope).sublist h.sublists.2.1
  failed := (ascending_grantsIn s scope).sublist h.sublists.2.2
  nodup := h.perm.nodup_iff.2 (ascending_grantsIn s scope).nodup
  all id := by
    rw [← mem_ids_grantsIn, ← h.perm.mem_iff, List.mem_append, List.mem_append]
    rfl
  removes := by
    have hdescends := (Store.Descends.refl s).throughout hpast
    refine (h.throughout_deleted.and hdescends).imp ?_
    rintro u _ ⟨hdeleted, hu⟩ id rfl g hg hgone
    have hid : g.id = id := Decidable.byContradiction fun hne => hgone (mem_deleteGrant.2 ⟨hg, hne⟩)
    have hmem : g.id ∈ o.deleted := hid ▸ hdeleted id rfl (isSome_grant?_of_mem hg hid)
    -- An identity that is listed was given before, so that the grant under it is an old one.
    have hlisted := h.sublists.1.subset hmem
    obtain ⟨listed, hstored, heq, -⟩ := mem_ids_grantsIn.1 hlisted
    have hbound : g.id.value ≤ s.lastGrant := heq ▸ (hs.counted.grants listed hstored).2
    obtain ⟨old, hold, active, rfl⟩ := hu.grants g hg hbound
    exact ⟨hmem, (mem_ids_grantsIn_iff hold).1 hlisted, old, hold, active, rfl⟩
  removed := h.sometime_deleted
  gone id hid := by
    obtain ⟨g, hg, hgid, -⟩ := mem_ids_grantsIn.1 (h.sublists.2.1.subset hid)
    exact h.sometime_skipped (ascending_grantsIn s scope).nodup id hid
      (isSome_grant?_of_mem hg hgid)
  fault := h.fault_of_failed
  participants := ascending_userOwners _
  mem_participants user := by
    show user ∈ Backend.userOwners _ ↔ _
    rw [mem_userOwners]
    exact exists_congr fun g => by rw [mem_grantsIn, and_assoc]

/-- A clean-up of a store that nobody else uses. -/
theorem run_purgeEach_memory {gs : List Grant} (hnodup : (gs.map (·.id)).Nodup)
    (hgs : ∀ g ∈ gs, g ∈ s.grants) (r : PurgeReport) :
    ((Backend.memory now).purgeEach gs r).run s =
      (.ok { r with deleted := r.deleted ++ gs.map (·.id) },
        { s with grants := s.grants.filter fun g => !(gs.map (·.id)).contains g.id }) := by
  induction gs generalizing s r with
  | nil =>
    have hgrants : s.grants.filter (fun _ => true) = s.grants :=
      Table.ext_mem fun g => Table.mem_filter.trans (and_iff_left rfl)
    rw [Backend.purgeEach, Action.run_pure, List.map_nil, List.append_nil]
    simp only [List.contains_nil, Bool.not_false, hgrants]
  | cons g rest ih =>
    obtain ⟨hfirst, hrest⟩ := List.nodup_cons.1 hnodup
    have hdelete : ((Backend.memory now).deleteGrant g.id).run s =
        (.ok true, (s.deleteGrant g.id).2) := by
      show (Except.ok (s.grant? g.id).isSome, _) = _
      rw [isSome_grant?_of_mem (hgs g List.mem_cons_self) rfl]
    have hothers : ∀ g' ∈ rest, g' ∈ (s.deleteGrant g.id).2.grants := fun g' hg' =>
      mem_deleteGrant.2 ⟨hgs g' (List.mem_cons_of_mem g hg'), fun hid =>
        hfirst (List.mem_map.2 ⟨g', hg', hid⟩)⟩
    have hgrants : (s.deleteGrant g.id).2.grants.filter
        (fun g' => !(rest.map (·.id)).contains g'.id) =
          s.grants.filter fun g' => !((g :: rest).map (·.id)).contains g'.id :=
      Table.ext_mem fun g' => by
        rw [Table.mem_filter, mem_deleteGrant, Table.mem_filter, and_assoc]
        simp
    rw [Backend.run_purgeEach_cons, hdelete]
    dsimp only
    rw [ih hrest hothers, hgrants, List.append_assoc]
    rfl

/-- What a clean-up of a store that nobody else uses reports. -/
def Store.purged (s : Store) (scope : Scope) (dryRun : Bool) : PurgeReport :=
  { dryRun := dryRun, deleted := (s.grantsIn scope).map (·.id),
    participants := Backend.userOwners (s.grantsIn scope) }

theorem run_purge_memory (s : Store) (area item : String) (itemId : Int32) :
    ((Backend.memory now).purge area item itemId false).run s =
      (.ok (s.purged (.single area item itemId) false),
        { s with grants := s.grants.filter fun g =>
          !(Scope.single area item itemId).meets g.toTerms }) := by
  have hnodup := (ascending_grantsIn s (.single area item itemId)).nodup
  have hrun := run_purgeEach_memory now hnodup (fun g hg => (mem_grantsIn.1 hg).1)
    { dryRun := false, participants := Backend.userOwners (s.grantsIn (.single area item itemId)) }
  have hgrants : s.grants.filter
      (fun g => !((s.grantsIn (.single area item itemId)).map (·.id)).contains g.id) =
        s.grants.filter fun g => !(Scope.single area item itemId).meets g.toTerms :=
    Table.ext_mem fun g => by
      rw [Table.mem_filter, Table.mem_filter]
      refine and_congr_right fun hg => ?_
      rw [Bool.not_eq_true', Bool.not_eq_true', ← Bool.not_eq_true, ← Bool.not_eq_true,
        List.contains_iff_mem, mem_ids_grantsIn_iff hg]
  rw [hgrants, List.nil_append] at hrun
  exact hrun

end Clean

/-- **A clean-up goes through and reports exactly what it did, whatever others do meanwhile.**  On a
busy store it does not fail, and unless a counter wraps around its report tells of each grant that
was in the scope what became of it, and of each user who owned one.

On a store that nobody else uses it removes all grants in the scope and nothing else, and a dry run
foretells its report and changes nothing. -/
theorem purge_is_exact {s : Store} (hs : s.ReachableInRange) (now : Stamp) (area item : String)
    (itemId : Int32) :
    (∀ plan : GrantId → Disturbance, ∃ report past,
      ((Backend.busy now plan).purge area item itemId false).run (s, []) =
        (.ok report, (s.through past, past)) ∧
      (Throughout (fun u x => x.Orderly u) s past →
        report.Exact plan (.single area item itemId) s past)) ∧
    ∃ report t,
      ((Backend.memory now).purge area item itemId false).run s = (.ok report, t) ∧
      report.dryRun = false ∧
      report.deleted = (s.grantsIn (.single area item itemId)).map (·.id) ∧
      report.skipped = [] ∧ report.failed = [] ∧
      t.grantsIn (.single area item itemId) = [] ∧
      t = { s with grants := s.grants.filter fun g =>
        !(Scope.single area item itemId).meets g.toTerms } ∧
      ((Backend.memory now).purge area item itemId true).run s =
        (.ok { report with dryRun := true }, s) := by
  refine ⟨fun plan => ?_, _, _, run_purge_memory now s area item itemId, rfl, rfl, rfl, rfl, ?_,
    rfl, rfl⟩
  · obtain ⟨past, o, hpurges, hrun⟩ := run_purgeEach_busy now plan
      (s.grantsIn (.single area item itemId))
      ⟨false, [], [], [], Backend.userOwners (s.grantsIn (.single area item itemId))⟩ s []
    exact ⟨_, past, hrun, hpurges.exact hs⟩
  · refine List.filter_eq_nil_iff.2 fun g hg hmeets => ?_
    have hrest := (Table.mem_filter.1 hg).2
    rw [hmeets] at hrest
    cases hrest

/-- A grant of a user on a draft. -/
def draftGrant (user : UserId) : Draft := (Draft.new (.user user) "news" "see").onInstance "draft" 4

theorem draftGrant_made (user : UserId) : (draftGrant user).Made :=
  (Draft.Made.new _ _ _).onInstance _ _

/-- The teams, after two users got grants on the draft on which a role has one. -/
def draftTeams : Store :=
  teams.afterAll newYear [.createGrant (draftGrant ⟨7⟩), .createGrant (draftGrant ⟨9⟩)]

/-- Before the grant of the first user is removed, others remove it and give another user one on the
draft.  Removing the grant of the second user fails. -/
def rivals (id : GrantId) : Disturbance :=
  if id = ⟨8⟩ then
    { others := [.call newYear (.deleteGrant ⟨8⟩),
        .transaction [(newYear, .insertGrant (draftGrant ⟨5⟩))] true] }
  else if id = ⟨9⟩ then { fault := some (.database "connection reset") }
  else {}

/-- One grant on the draft is removed, one was gone, and one stays. -/
theorem purge_is_exact_draft :
    ∃ report t past,
      ((Backend.busy newYear rivals).purge "news" "draft" 4 false).run (draftTeams, []) =
        (.ok report, (t, past)) ∧
      report = ⟨false, [⟨6⟩], [⟨8⟩], [⟨9⟩], [⟨7⟩, ⟨9⟩]⟩ ∧
      report.Exact rivals (.single "news" "draft" 4) draftTeams past := by
  have hreach : draftTeams.ReachableInRange := reachableInRange_teams.afterAll
    ⟨draftGrant_made _, by decide +kernel, draftGrant_made _, by decide +kernel, trivial⟩
  obtain ⟨hbusy, -⟩ := purge_is_exact hreach newYear "news" "draft" 4
  obtain ⟨report, past, hrun, hexact⟩ := hbusy rivals
  have hreport : (((Backend.busy newYear rivals).purge "news" "draft" 4 false).run
      (draftTeams, [])).1 = .ok ⟨false, [⟨6⟩], [⟨8⟩], [⟨9⟩], [⟨7⟩, ⟨9⟩]⟩ := by rfl
  have hpast : (((Backend.busy newYear rivals).purge "news" "draft" 4 false).run
      (draftTeams, [])).2.2 = .removal ⟨6⟩ :: ((rivals ⟨8⟩).happenings ++ [.removal ⟨8⟩]) := by
    decide +kernel
  rw [hrun] at hreport hpast
  cases hreport
  cases hpast
  refine ⟨_, _, _, hrun, rfl, hexact ⟨trivial, ⟨⟨trivial, by decide +kernel⟩, trivial⟩, ?_⟩⟩
  exact ⟨⟨⟨draftGrant_made _, by decide +kernel⟩, trivial⟩, trivial, trivial⟩

end Gatehouse
