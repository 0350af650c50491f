import Gatehouse.Proofs.Store.Activity
import Gatehouse.Proofs.Store.Memory
import Gatehouse.Proofs.Template.Atomic
import Mathlib.Data.List.Forall2

/-!
# Transactions and direct calls

Every call of a transaction has a counterpart among the calls of a store (`Call.within` and
`Call.direct`).  This module follows calls of both kinds side by side, the ones on the copy of a
transaction and the others on the store that the transaction was opened on.

The two runs read different clocks, so a role created without a date is dated differently.  Apart
from that they stay the same: the stores are alike (`Store.Alike`), and so is what is answered
(`Answer.Told`).  `Call.alike` is the step, `series_alike` the run, and
`transaction_refines_calls` adds what becomes of the store when the transaction is committed or
dropped.  With one clock for both, alike means equal (`Store.Alike.eq`).
-/

set_option autoImplicit false

namespace Gatehouse

open Std

/-! ## Calls and their answers -/

/-- What a call of a transaction is answered. -/
inductive Answer where
  /-- The role that was looked for, if it is there. -/
  | found (role : Option Role)
  /-- The role that was created or changed. -/
  | role (role : Role)
  /-- The grants of a role. -/
  | grants (list : List Grant)
  /-- How many grants were removed. -/
  | count (n : Nat)
  /-- The identity of the grant that was stored. -/
  | grant (id : GrantId)
deriving DecidableEq, Repr

namespace Call

variable {σ τ : Type}

/-- The call, made in a transaction. -/
def within (t : Transaction τ) : Call → Action τ Answer
  | .roleNamed name => .found <$> t.roleNamed name
  | .grantsOfRole id => .grants <$> t.grantsOfRole id
  | .write (.insertRole new) => .role <$> t.insertRole new
  | .write (.setFlags id flags) => .role <$> t.setFlags id flags
  | .write (.clearRole id) => .count <$> t.clearRole id
  | .write (.insertGrant d) => .grant <$> t.insertGrant d

/-- Its counterpart on a store.  The flags of a role are set by a change that gives all flags and no
name; if there is no role to change, that is an error here. -/
def direct (b : Backend σ τ) : Call → Action σ Answer
  | .roleNamed name => .found <$> b.roleNamed name
  | .grantsOfRole id => .grants <$> b.grantsOfRole id
  | .write (.insertRole new) => .role <$> b.createRole new
  | .write (.setFlags id flags) => do
    return .role (← Action.require (.role id) (← b.changeRole id (.ofFlags flags)))
  | .write (.clearRole id) => .count <$> b.clearRole id
  | .write (.insertGrant d) => .grant <$> b.createGrant d

/-- The call reads the clock: it creates a role for which no date is given. -/
def ReadsClock : Call → Prop
  | .write (.insertRole new) => new.publicProfileAt = none
  | _ => False

end Call

/-! ## One thing after the other -/

namespace Action

variable {σ α β : Type}

theorem run_map (f : α → β) (x : Action σ α) (s : σ) :
    (f <$> x).run s = ((x.run s).1.map f, (x.run s).2) := by
  rw [map_eq_pure_bind, run_bind]
  rcases x.run s with ⟨e | a, t⟩ <;> rfl

/-- Does one thing after the other, whether or not one of them fails. -/
def series : List (Action σ α) → σ → List (Except Error α) × σ
  | [], s => ([], s)
  | x :: rest, s =>
    let (answers, t) := series rest (x.run s).2
    ((x.run s).1 :: answers, t)

theorem series_cons (x : Action σ α) (rest : List (Action σ α)) (s : σ) :
    series (x :: rest) s =
      ((x.run s).1 :: (series rest (x.run s).2).1, (series rest (x.run s).2).2) := rfl

end Action

/-- Works in a transaction, one thing after the other whether or not one of them fails, and then
commits the transaction or drops it. -/
def Backend.session {σ τ α : Type} (b : Backend σ τ) (work : List (Action τ α)) (kept : Bool) :
    Action σ (List (Except Error α)) := do
  let opened ← b.begin
  let (answers, done) := Action.series work opened
  if kept then b.commit done
  return answers

theorem run_session_memory {α : Type} (now : Stamp) (work : List (Action Store α)) (kept : Bool)
    (s : Store) : ((Backend.memory now).session work kept).run s =
      (.ok (Action.series work s).1, if kept then (Action.series work s).2 else s) := by
  rw [Backend.session, Action.run_bind_of_ok (Backend.run_begin_memory now s)]
  cases kept <;> rfl

/-! ## Alike but for the clock -/

section Alike

variable (R : Stamp → Stamp → Prop)

/-- The roles differ in their dates at most, and these are related. -/
structure Role.Alike (r r' : Role) : Prop where
  /-- The identity is the same. -/
  id : r.id = r'.id
  /-- The name is the same. -/
  name : r.name = r'.name
  /-- The flags are the same. -/
  flags : r.flags = r'.flags
  /-- The dates are related. -/
  publicProfileAt : Option.Rel R r.publicProfileAt r'.publicProfileAt

/-- The stores differ in the dates of their roles at most, and these are related. -/
structure Store.Alike (s t : Store) : Prop where
  /-- The roles are alike, one by one. -/
  roles : List.Forall₂ (Role.Alike R) s.roles.rows t.roles.rows
  /-- The links are the same. -/
  links : s.links = t.links
  /-- The grants are the same. -/
  grants : s.grants = t.grants
  /-- The counters of roles are the same. -/
  lastRole : s.lastRole = t.lastRole
  /-- The counters of grants are the same. -/
  lastGrant : s.lastGrant = t.lastGrant

/-- The answers differ in the dates of roles at most, and these are related. -/
inductive Answer.Alike : Answer → Answer → Prop
  | found {o o' : Option Role} (h : Option.Rel (Role.Alike R) o o') : Alike (.found o) (.found o')
  | role {r r' : Role} (h : r.Alike R r') : Alike (.role r) (.role r')
  | grants (list : List Grant) : Alike (.grants list) (.grants list)
  | count (n : Nat) : Alike (.count n) (.count n)
  | grant (id : GrantId) : Alike (.grant id) (.grant id)

/-- Both calls fail with the same error, or both are answered alike. -/
inductive Answer.Told : Except Error Answer → Except Error Answer → Prop
  | error (e : Error) : Told (.error e) (.error e)
  | ok {a a' : Answer} (h : a.Alike R a') : Told (.ok a) (.ok a')

end Alike

section Related

variable {R : Stamp → Stamp → Prop}

theorem Role.Alike.refl (hR : ∀ a, R a a) (r : Role) : r.Alike R r := by
  refine ⟨rfl, rfl, rfl, ?_⟩
  cases r.publicProfileAt with
  | none => exact .none
  | some a => exact .some (hR a)

theorem Store.Alike.refl (hR : ∀ a, R a a) (s : Store) : s.Alike R s :=
  ⟨List.forall₂_same.2 fun r _ => .refl hR r, rfl, rfl, rfl, rfl⟩

/-! ### Where related dates are equal -/

theorem Role.Alike.eq (hR : ∀ a b, R a b → a = b) {r r' : Role} (h : r.Alike R r') : r = r' := by
  obtain ⟨hid, hname, hflags, hdate⟩ := h
  cases r
  cases r'
  cases hdate with
  | none => simp_all
  | some hab =>
    have hdates := hR _ _ hab
    simp_all

theorem Store.Alike.eq (hR : ∀ a b, R a b → a = b) {s t : Store} (h : s.Alike R t) : s = t := by
  have hrows : s.roles.rows = t.roles.rows :=
    List.forall₂_eq_eq_eq ▸ h.roles.imp fun _ _ hr => Role.Alike.eq hR hr
  obtain ⟨-, hlinks, hgrants, hrole, hgrant⟩ := h
  cases s
  cases t
  cases Table.ext hrows
  simp_all

theorem Answer.Told.eq (hR : ∀ a b, R a b → a = b) {x y : Except Error Answer}
    (h : Answer.Told R x y) : x = y := by
  cases h with
  | error e => rfl
  | ok h =>
    cases h with
    | found h =>
      cases h with
      | none => rfl
      | some hr => rw [Role.Alike.eq hR hr]
    | role hr => rw [Role.Alike.eq hR hr]
    | _ => rfl

/-! ### Reading and writing stores that are alike -/

theorem forall₂_find? {α : Type} {S : α → α → Prop} {p : α → Bool} {xs ys : List α}
    (h : List.Forall₂ S xs ys) (hp : ∀ a b, S a b → p a = p b) :
    Option.Rel S (xs.find? p) (ys.find? p) := by
  induction h with
  | nil => exact .none
  | @cons a b xs ys hab _ ih =>
    rw [List.find?_cons, List.find?_cons, hp a b hab]
    split
    · exact .some hab
    · exact ih

/-- A row is placed at the same place in both lists. -/
theorem forall₂_putBy {α : Type} {S : α → α → Prop} {cmp : α → α → Ordering} {x y : α}
    {xs ys : List α} (h : List.Forall₂ S xs ys) (hxy : S x y)
    (hcmp : ∀ a b, S a b → cmp x a = cmp y b) :
    List.Forall₂ S (putBy cmp x xs) (putBy cmp y ys) := by
  induction h with
  | nil => exact .cons hxy .nil
  | @cons a b xs ys hab hrest ih =>
    rw [putBy, putBy, hcmp a b hab]
    split
    · exact .cons hxy (.cons hab hrest)
    · exact .cons hxy hrest
    · exact .cons hab ih

namespace Store.Alike

variable {s t : Store} (h : s.Alike R t)
include h

theorem roleNamed? (name : String) :
    Option.Rel (Role.Alike R) (s.roleNamed? name) (t.roleNamed? name) :=
  forall₂_find? h.roles fun a b hab => by rw [hab.name]

theorem role? (id : RoleId) : Option.Rel (Role.Alike R) (s.role? id) (t.role? id) :=
  forall₂_find? h.roles fun a b hab => by rw [hab.id]

theorem roles_insert {r r' : Role} (hr : r.Alike R r') :
    List.Forall₂ (Role.Alike R) (s.roles.insert r).rows (t.roles.insert r').rows :=
  forall₂_putBy h.roles hr fun a b hab => by
    rw [Role.byId, compareOn, compareOn, hr.id, hab.id]

theorem setRole {r r' : Role} (hr : r.Alike R r') : (s.setRole r).Alike R (t.setRole r') :=
  { h with roles := h.roles_insert hr }

theorem grantsOfRole (id : RoleId) : s.grantsOfRole id = t.grantsOfRole id := by
  rw [Store.grantsOfRole, Store.grantsOfRole, grantsWhere, grantsWhere, h.grants]

end Store.Alike

end Related

/-! ## The calls side by side -/

namespace Call

variable {R : Stamp → Stamp → Prop} {m m' : Stamp} {w s : Store}

theorem insertRole_alike (hR : ∀ a, R a a) (h : w.Alike R s) (new : NewRole)
    (hm : new.publicProfileAt = none → R m m') :
    let x := ((Call.write (.insertRole new)).within (.memory m)).run w
    let y := ((Call.write (.insertRole new)).direct (.memory m')).run s
    Answer.Told R x.1 y.1 ∧ x.2.Alike R y.2 := by
  have hnamed := h.roleNamed? new.name
  dsimp only [within, direct, Transaction.memory, Backend.memory]
  rw [Action.run_map, Action.run_map, Action.run_attempt, Action.run_attempt, Store.insertRole,
    Store.insertRole]
  by_cases hblank : allBlank new.name = true
  · rw [if_pos hblank, if_pos hblank]
    exact ⟨.error _, h⟩
  rw [if_neg hblank, if_neg hblank]
  generalize w.roleNamed? new.name = found, s.roleNamed? new.name = found' at hnamed ⊢
  cases hnamed with
  | some => exact ⟨.error _, h⟩
  | none =>
    have hrole : Role.Alike R
        ⟨⟨w.lastRole + 1⟩, new.name, new.flags, some (new.publicProfileAt.getD m)⟩
        ⟨⟨s.lastRole + 1⟩, new.name, new.flags, some (new.publicProfileAt.getD m')⟩ := by
      refine ⟨by rw [h.lastRole], rfl, rfl, .some ?_⟩
      cases hdate : new.publicProfileAt with
      | none => exact hm hdate
      | some a => exact hR a
    exact ⟨.ok (.role hrole), h.roles_insert hrole, h.links, h.grants,
      congrArg (· + 1) h.lastRole, h.lastGrant⟩

theorem setFlags_alike (h : w.Alike R s) (id : RoleId) (flags : RoleFlags) :
    let x := ((Call.write (.setFlags id flags)).within (.memory m)).run w
    let y := ((Call.write (.setFlags id flags)).direct (.memory m')).run s
    Answer.Told R x.1 y.1 ∧ x.2.Alike R y.2 := by
  have hfound := h.role? id
  dsimp only [within, direct, Transaction.memory, Backend.memory]
  rw [Action.run_map, Action.run_attempt, Action.run_bind, Action.run_attempt,
    Store.changeRole_ofFlags, Store.setFlags, Store.setFlags]
  generalize w.role? id = found, s.role? id = found' at hfound ⊢
  cases hfound with
  | none => exact ⟨.error _, h⟩
  | @some r r' hr =>
    have hchanged : (r.changed (.ofFlags flags)).Alike R (r'.changed (.ofFlags flags)) :=
      ⟨hr.id, hr.name, rfl, hr.publicProfileAt⟩
    exact ⟨.ok (.role hchanged), h.setRole hchanged⟩

theorem insertGrant_alike (h : w.Alike R s) (d : Draft) :
    let x := ((Call.write (.insertGrant d)).within (.memory m)).run w
    let y := ((Call.write (.insertGrant d)).direct (.memory m')).run s
    Answer.Told R x.1 y.1 ∧ x.2.Alike R y.2 := by
  have hmissing : ∀ id, (w.role? id).isNone = (s.role? id).isNone := fun id => by
    have hfound := h.role? id
    generalize w.role? id = found, s.role? id = found' at hfound ⊢
    cases hfound <;> rfl
  dsimp only [within, direct, Transaction.memory, Backend.memory]
  rw [Action.run_map, Action.run_map, Action.run_attempt, Action.run_attempt, Store.insertGrant,
    Store.insertGrant]
  simp only [hmissing]
  cases d.owner.role?.filter fun role => (s.role? role).isNone with
  | some role => exact ⟨.error _, h⟩
  | none =>
    dsimp only
    rw [h.lastGrant, h.grants]
    exact ⟨.ok (.grant _), h.roles, h.links, rfl, h.lastRole, rfl⟩

/-- **A call of a transaction and its counterpart**, made on stores that are alike, are answered
alike and lead to stores that are alike. -/
theorem alike (hR : ∀ a, R a a) (h : w.Alike R s) (c : Call) (hm : c.ReadsClock → R m m') :
    Answer.Told R ((c.within (.memory m)).run w).1 ((c.direct (.memory m')).run s).1 ∧
      ((c.within (.memory m)).run w).2.Alike R ((c.direct (.memory m')).run s).2 := by
  match c with
  | .roleNamed name => exact ⟨.ok (.found (h.roleNamed? name)), h⟩
  | .grantsOfRole id =>
    refine ⟨?_, h⟩
    show Answer.Told R (.ok (.grants (w.grantsOfRole id))) (.ok (.grants (s.grantsOfRole id)))
    rw [h.grantsOfRole]
    exact .ok (.grants _)
  | .write (.insertRole new) => exact insertRole_alike hR h new hm
  | .write (.setFlags id flags) => exact setFlags_alike h id flags
  | .write (.clearRole id) =>
    obtain ⟨hcount, hgrants⟩ : (w.clearRole id).1 = (s.clearRole id).1 ∧
        (w.clearRole id).2.grants = (s.clearRole id).2.grants := by
      simp only [Store.clearRole, Store.deleteGrants, h.grants, and_self]
    refine ⟨?_, h.roles, h.links, hgrants, h.lastRole, h.lastGrant⟩
    show Answer.Told R (.ok (.count (w.clearRole id).1)) (.ok (.count (s.clearRole id).1))
    rw [hcount]
    exact .ok (.count _)
  | .write (.insertGrant d) => exact insertGrant_alike h d

/-- A call of a transaction that fails leaves the copy as it is. -/
theorem run_within_error {c : Call} {w' : Store} {e : Error}
    (h : (c.within (.memory m)).run w = (.error e, w')) : w' = w := by
  have hattempt : ∀ {α : Type} {f : Store → Except Error (α × Store)} {g : α → Answer},
      (g <$> Action.attempt f).run w = (.error e, w') → w' = w := fun {α f g} hrun => by
    rw [Action.run_map, Action.run_attempt] at hrun
    cases hf : f w with
    | error e' => rw [hf] at hrun; cases hrun; rfl
    | ok p => rw [hf] at hrun; cases hrun
  match c with
  | .roleNamed name => cases h
  | .grantsOfRole id => cases h
  | .write (.insertRole new) => exact hattempt h
  | .write (.setFlags id flags) => exact hattempt h
  | .write (.clearRole id) => cases h
  | .write (.insertGrant d) => exact hattempt h

end Call

/-! ## Runs side by side -/

/-- A call that is made twice: in a transaction at one moment, and directly at another. -/
structure TwinCall where
  /-- The call. -/
  call : Call
  /-- The moment at which it is made in the transaction. -/
  inside : Stamp
  /-- The moment at which its counterpart is made. -/
  outside : Stamp
deriving DecidableEq, Repr

namespace TwinCall

/-- The call in the transaction. -/
def within (p : TwinCall) : Action Store Answer := p.call.within (.memory p.inside)

/-- Its counterpart. -/
def direct (p : TwinCall) : Action Store Answer := p.call.direct (.memory p.outside)

/-- The dates are the same, or they were read from the two clocks for the same call. -/
def SameDate (script : List TwinCall) (a b : Stamp) : Prop :=
  a = b ∨ ∃ p ∈ script, p.call.ReadsClock ∧ a = p.inside ∧ b = p.outside

end TwinCall

/-- Calls of a transaction and their counterparts are answered alike, step by step, and lead to
stores that are alike. -/
theorem series_alike {R : Stamp → Stamp → Prop} (hR : ∀ a, R a a) {script : List TwinCall}
    (hscript : ∀ p ∈ script, p.call.ReadsClock → R p.inside p.outside) {w s : Store}
    (h : w.Alike R s) :
    List.Forall₂ (Answer.Told R) (Action.series (script.map (·.within)) w).1
        (Action.series (script.map (·.direct)) s).1 ∧
      (Action.series (script.map (·.within)) w).2.Alike R
        (Action.series (script.map (·.direct)) s).2 := by
  induction script generalizing w s with
  | nil => exact ⟨.nil, h⟩
  | cons p rest ih =>
    obtain ⟨hanswer, hstores⟩ := Call.alike hR h p.call (hscript p List.mem_cons_self)
    obtain ⟨hanswers, hend⟩ := ih (fun q hq => hscript q (List.mem_cons_of_mem p hq)) hstores
    rw [List.map_cons, List.map_cons, Action.series_cons, Action.series_cons]
    exact ⟨.cons hanswer hanswers, hend⟩

/-- **A transaction does what direct calls would do.**  Made in a transaction or directly on the
store, calls are answered alike step by step, failures included, and lead to stores that are alike;
only what was read from the clock can differ, and with the same readings nothing does.  The
transaction leaves the store there when it is committed, and as it was when it is dropped.  A call
that fails leaves the copy as it is, so the others go on as if it had not been made. -/
theorem transaction_refines_calls (now : Stamp) (s : Store) (script : List TwinCall) :
    ∃ answers copy answers' t,
      Action.series (script.map (·.direct)) s = (answers', t) ∧
      ((Backend.memory now).session (script.map (·.within)) true).run s = (.ok answers, copy) ∧
      ((Backend.memory now).session (script.map (·.within)) false).run s = (.ok answers, s) ∧
      List.Forall₂ (Answer.Told (TwinCall.SameDate script)) answers answers' ∧
      copy.Alike (TwinCall.SameDate script) t ∧
      ((∀ p ∈ script, p.inside = p.outside) → answers = answers' ∧ copy = t) ∧
      ∀ (p : TwinCall) (w w' : Store) (e : Error), p.within.run w = (.error e, w') →
        w' = w ∧ ∀ later, Action.series (p.within :: later) w =
          (.error e :: (Action.series later w).1, (Action.series later w).2) := by
  have hR : ∀ a, TwinCall.SameDate script a a := fun a => .inl rfl
  obtain ⟨hanswers, hstores⟩ := series_alike hR
    (fun p hp hclock => .inr ⟨p, hp, hclock, rfl, rfl⟩) (.refl hR s)
  refine ⟨_, _, _, _, rfl, run_session_memory now _ true s, run_session_memory now _ false s,
    hanswers, hstores, fun hclock => ?_, fun p w w' e hrun => ?_⟩
  · have heq : ∀ a b, TwinCall.SameDate script a b → a = b := by
      rintro a b (hab | ⟨p, hp, -, rfl, rfl⟩)
      · exact hab
      · exact hclock p hp
    exact ⟨List.forall₂_eq_eq_eq ▸ hanswers.imp fun _ _ h => h.eq heq, hstores.eq heq⟩
  · obtain rfl := Call.run_within_error hrun
    refine ⟨rfl, fun later => ?_⟩
    rw [Action.series_cons, hrun]

end Gatehouse
