import Gatehouse.Proofs.Store.Reachable

/-!
# What clients do

A client makes a call, or opens a transaction, makes calls in it, and commits or drops it
(`Activity`).  Each call has a moment of its own, since time goes by between two of them.

What a call of a transaction does to its copy, a call on the store does directly
(`Write.after_operation`).  So an activity comes to the same as some calls made one after the other
(`Activity.after_eq_replay`), and a transaction that is dropped comes to none.  Properties of such
runs of calls, `Along`, are proved call by call; `Along.invariant` is the way from one call to the
whole run.
-/

set_option autoImplicit false

namespace Gatehouse

/-! ## Runs of calls -/

namespace Store

/-- The store after calls, each made at its moment. -/
def replay (s : Store) (calls : List (Stamp × Operation)) : Store :=
  calls.foldl (fun s c => c.2.after (.memory c.1) s) s

theorem replay_append (s : Store) (xs ys : List (Stamp × Operation)) :
    s.replay (xs ++ ys) = (s.replay xs).replay ys := List.foldl_append

end Store

/-- Each of the calls has the property on the store it finds. -/
def Along (P : Store → Stamp → Operation → Prop) : Store → List (Stamp × Operation) → Prop
  | _, [] => True
  | s, (now, op) :: rest => P s now op ∧ Along P (op.after (.memory now) s) rest

/-- The call stores only a draft that can be made, and no counter wraps around. -/
def Operation.Orderly (s : Store) (now : Stamp) (op : Operation) : Prop :=
  op.Proper ∧ s.KeepsCounting (op.after (.memory now) s)

section Along

variable {P Q : Store → Stamp → Operation → Prop}

instance decidableAlong [∀ s now op, Decidable (P s now op)] :
    ∀ (s : Store) (calls : List (Stamp × Operation)), Decidable (Along P s calls)
  | _, [] => .isTrue trivial
  | _, (_, _) :: rest => @instDecidableAnd _ _ _ (decidableAlong _ rest)

theorem Along.append {s : Store} {xs ys : List (Stamp × Operation)} (hxs : Along P s xs)
    (hys : Along P (s.replay xs) ys) : Along P s (xs ++ ys) := by
  induction xs generalizing s with
  | nil => exact hys
  | cons c rest ih => exact ⟨hxs.1, ih hxs.2 hys⟩

/-- A run of calls that has a property has it in both of its parts. -/
theorem Along.of_append {s : Store} {xs ys : List (Stamp × Operation)} (h : Along P s (xs ++ ys)) :
    Along P s xs ∧ Along P (s.replay xs) ys := by
  induction xs generalizing s with
  | nil => exact ⟨trivial, h⟩
  | cons c rest ih =>
    obtain ⟨hrest, hys⟩ := ih h.2
    exact ⟨⟨h.1, hrest⟩, hys⟩

theorem Along.imp {s : Store} {calls : List (Stamp × Operation)} (h : Along P s calls)
    (hpq : ∀ u now op, P u now op → Q u now op) : Along Q s calls := by
  induction calls generalizing s with
  | nil => trivial
  | cons c rest ih => exact ⟨hpq _ _ _ h.1, ih h.2⟩

theorem Along.and {s : Store} {calls : List (Stamp × Operation)} (hp : Along P s calls)
    (hq : Along Q s calls) : Along (fun u now op => P u now op ∧ Q u now op) s calls := by
  induction calls generalizing s with
  | nil => trivial
  | cons c rest ih => exact ⟨⟨hp.1, hq.1⟩, ih hp.2 hq.2⟩

/-- What each of the calls preserves holds after all of them if it held before. -/
theorem Along.invariant {I : Store → Prop} {s : Store} {calls : List (Stamp × Operation)}
    (h : Along P s calls)
    (step : ∀ u now op, P u now op → I u → I (op.after (.memory now) u)) (hs : I s) :
    I (s.replay calls) := by
  induction calls generalizing s with
  | nil => exact hs
  | cons c rest ih => exact ih h.2 (step _ _ _ h.1 hs)

end Along

/-- Orderly calls lead from a store that is reachable with counters in range to another one. -/
theorem Store.ReachableInRange.replay {s : Store} {calls : List (Stamp × Operation)}
    (hs : s.ReachableInRange) (h : Along (fun u now op => op.Orderly u now) s calls) :
    (s.replay calls).ReachableInRange :=
  h.invariant (fun _ now _ hop hu => hu.call now hop.1 hop.2) hs

/-! ## Calls of a transaction as calls on the store -/

namespace Write

/-- The call on the store that does what the call of a transaction does to its copy. -/
def operation : Write → Operation
  | .insertRole new => .createRole new
  | .setFlags id flags => .changeRole id (.ofFlags flags)
  | .clearRole id => .clearRole id
  | .insertGrant d => .createGrant d

theorem proper_operation (x : Write) : x.operation.Proper ↔ x.Proper := by
  cases x <;> exact Iff.rfl

end Write

/-- Setting the flags of a role is changing it with all flags given and the name kept; only that the
role is not there is told in two ways. -/
theorem Store.changeRole_ofFlags (s : Store) (id : RoleId) (flags : RoleFlags) :
    s.changeRole id (.ofFlags flags) = match s.setFlags id flags with
      | .ok (role, t) => .ok (some role, t)
      | .error _ => .ok (none, s) := by
  have hname : (RoleChange.ofFlags flags).name.filter (s.nameTaken id) = none := rfl
  rw [changeRole, hname, setFlags]
  cases s.role? id <;> rfl

/-- On the copy of a transaction its calls do what they do on the store. -/
theorem Write.after_operation (x : Write) (now : Stamp) (s : Store) :
    x.operation.after (.memory now) s = x.after (.memory now) s := by
  cases x with
  | insertRole new => rfl
  | setFlags id flags =>
    show ((Action.attempt (·.changeRole id (.ofFlags flags))).run s).2 =
      ((Action.attempt (·.setFlags id flags)).run s).2
    rw [Action.run_attempt, Action.run_attempt, Store.changeRole_ofFlags, Store.setFlags]
    cases s.role? id <;> rfl
  | clearRole id => rfl
  | insertGrant d => rfl

/-! ## Activities -/

/-- Something that a client does with a store. -/
inductive Activity where
  /-- A call at a moment. -/
  | call (now : Stamp) (op : Operation)
  /-- A transaction with its calls that change something, committed if it is kept and dropped
  otherwise. -/
  | transaction (writes : List (Stamp × Write)) (kept : Bool)
deriving DecidableEq, Repr

namespace Activity

/-- The store after an activity. -/
def after (s : Store) : Activity → Store
  | .call now op => op.after (.memory now) s
  | .transaction writes true => writes.foldl (fun w x => x.2.after (.memory x.1) w) s
  | .transaction _ false => s

/-- The calls on the store that an activity comes to. -/
def calls : Activity → List (Stamp × Operation)
  | .call now op => [(now, op)]
  | .transaction writes true => writes.map fun x => (x.1, x.2.operation)
  | .transaction _ false => []

/-- An activity comes to some calls on the store. -/
theorem after_eq_replay (a : Activity) (s : Store) : a.after s = s.replay a.calls := by
  match a with
  | .call now op => rfl
  | .transaction writes true =>
    rw [after, calls, Store.replay, List.foldl_map]
    simp only [Write.after_operation]
  | .transaction writes false => rfl

/-- The calls of the activity store only drafts that can be made, and no counter wraps around. -/
def Orderly (s : Store) (a : Activity) : Prop := Along (fun u now op => op.Orderly u now) s a.calls

end Activity

end Gatehouse
