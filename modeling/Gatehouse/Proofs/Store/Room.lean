import Gatehouse.Proofs.Store.Reachable
import Mathlib.Algebra.Group.Int.Defs

/-!
# Room for new identities

A store has room for some more roles and grants while its counters can give that many identities
without wrapping around (`Store.Room`).  What is done in a transaction spends some of the room, also
when it fails half-way; `Action.Spends` says how much, adds up along a chain of calls
(`Spends.bind`), and takes a store that is reachable with counters in range to another one.
-/

set_option autoImplicit false

namespace Gatehouse

/-! ## Room -/

/-- There is room for so many more roles and grants. -/
structure Store.Room (s : Store) (roles grants : Nat) : Prop where
  /-- The counter of roles does not get to its end. -/
  role : s.lastRole.toInt + roles < 2 ^ 31
  /-- The counter of grants does not get to its end. -/
  grant : s.lastGrant.toInt + grants < 2 ^ 31

theorem Store.Room.mono {s : Store} {m n m' n' : Nat} (h : s.Room m n) (hm : m' ≤ m)
    (hn : n' ≤ n) : s.Room m' n' := by
  obtain ⟨hrole, hgrant⟩ := h
  constructor <;> omega

/-- A counter with room for one more does not wrap around. -/
theorem le_add_one_of_lt {n : Int32} (h : n.toInt + 1 < 2 ^ 31) : n ≤ n + 1 := by
  have hlow := Int32.le_toInt n
  have hone : (1 : Int32).toInt = 1 := rfl
  rw [Int32.le_iff_toInt_le, Int32.toInt_add, hone, Int.bmod_def]
  split <;> omega

/-- The counters of the second store are those of the first, or one ahead where `m` or `n` is 1. -/
structure Store.Moves (s t : Store) (m n : Nat) : Prop where
  /-- The counter of roles. -/
  role : t.lastRole = s.lastRole ∨ m = 1 ∧ t.lastRole = s.lastRole + 1
  /-- The counter of grants. -/
  grant : t.lastGrant = s.lastGrant ∨ n = 1 ∧ t.lastGrant = s.lastGrant + 1

theorem Store.Moves.refl (s : Store) (m n : Nat) : s.Moves s m n := ⟨.inl rfl, .inl rfl⟩

/-- With room for `m` more identities, a counter that moves by one at most, and only where `m` is 1,
does not wrap around and leaves the room beyond. -/
theorem counter_step {n n' : Int32} {m k : Nat} (hroom : n.toInt + (m + k : Nat) < 2 ^ 31)
    (h : n' = n ∨ m = 1 ∧ n' = n + 1) : n ≤ n' ∧ n'.toInt + k < 2 ^ 31 := by
  rcases h with rfl | ⟨rfl, rfl⟩
  · exact ⟨Int32.le_refl n', by omega⟩
  · have hle := le_add_one_of_lt (n := n) (by omega)
    have hnext := toInt_add_one hle
    exact ⟨hle, by omega⟩

theorem Store.Room.lastRole_le {s : Store} {m n : Nat} (h : s.Room (1 + m) n) :
    s.lastRole ≤ s.lastRole + 1 := (counter_step h.role (.inr ⟨rfl, rfl⟩)).1

theorem Store.Room.lastGrant_le {s : Store} {m n : Nat} (h : s.Room m (1 + n)) :
    s.lastGrant ≤ s.lastGrant + 1 := (counter_step h.grant (.inr ⟨rfl, rfl⟩)).1

theorem Store.Moves.keepsCounting {s t : Store} {m n m' n' : Nat} (h : s.Moves t m n)
    (hroom : s.Room (m + m') (n + n')) : s.KeepsCounting t ∧ t.Room m' n' := by
  obtain ⟨hrole, hroleRoom⟩ := counter_step hroom.role h.role
  obtain ⟨hgrant, hgrantRoom⟩ := counter_step hroom.grant h.grant
  exact ⟨⟨hrole, hgrant⟩, ⟨hroleRoom, hgrantRoom⟩⟩

/-! ## What a call spends -/

namespace Write

/-- The identities a call gives to roles. -/
def roles : Write → Nat
  | .insertRole _ => 1
  | _ => 0

/-- The identities a call gives to grants. -/
def grants : Write → Nat
  | .insertGrant _ => 1
  | _ => 0

/-- A call moves the counters by the identities it gives, or not at all if it fails. -/
theorem moves (x : Write) (now : Stamp) (w : Store) :
    w.Moves (x.after (.memory now) w) x.roles x.grants := by
  cases x with
  | insertRole new =>
    refine Action.state_attempt (P := fun t => w.Moves t 1 0) (.refl w 1 0) fun role t h => ?_
    rw [(Store.insertRole_eq_ok_iff.1 h).2.2.2]
    exact ⟨.inr ⟨rfl, rfl⟩, .inl rfl⟩
  | setFlags id flags =>
    refine Action.state_attempt (P := fun t => w.Moves t 0 0) (.refl w 0 0) fun role t h => ?_
    obtain ⟨old, -, -, rfl⟩ := Store.setFlags_eq_ok_iff.1 h
    exact ⟨.inl rfl, .inl rfl⟩
  | clearRole id => exact ⟨.inl rfl, .inl rfl⟩
  | insertGrant d =>
    refine Action.state_attempt (P := fun t => w.Moves t 0 1) (.refl w 0 1) fun id t h => ?_
    rw [(Store.insertGrant_eq_ok_iff.1 h).2.2]
    exact ⟨.inl rfl, .inr ⟨rfl, rfl⟩⟩

end Write

/-- A single call of a transaction leads from a reachable store to a reachable one, as if it were
committed at once. -/
theorem ReachableBy.write {Admits : Store → Store → Prop} {w : Store} {x : Write} (now : Stamp)
    (h : ReachableBy Admits w) (hx : x.Proper) (hadmits : Admits w (x.after (.memory now) w)) :
    ReachableBy Admits (x.after (.memory now) w) :=
  h.commit (.write now .opened hx hadmits)

/-! ## What an action spends -/

/-- From a store that is reachable with counters in range and has room for `m` more roles and `n`
more grants, the action leads to another one, and whatever room there was beyond that is left. -/
def Action.Spends {α : Type} (x : Action Store α) (m n : Nat) : Prop :=
  ∀ (w : Store) (m' n' : Nat), w.ReachableInRange → w.Room (m + m') (n + n') →
    (x.run w).2.ReachableInRange ∧ (x.run w).2.Room m' n'

namespace Action.Spends

variable {α β : Type} {m n k l : Nat}

theorem pure (a : α) : (pure a : Action Store α).Spends 0 0 := fun _ _ _ hw hroom =>
  ⟨hw, hroom.mono (by omega) (by omega)⟩

/-- Looking something up spends nothing. -/
theorem query_bind {g : Store → α} {f : α → Action Store β} (hf : ∀ a, (f a).Spends m n) :
    (Action.query g >>= f).Spends m n := fun w => hf (g w) w

/-- What does a call of a transaction spends what the call does. -/
theorem of_write (x : Write) (hx : x.Proper) (now : Stamp) {a : Action Store α}
    (h : ∀ w, (a.run w).2 = x.after (.memory now) w) : a.Spends x.roles x.grants := by
  intro w k l hw hroom
  obtain ⟨hkeeps, hrest⟩ := (x.moves now w).keepsCounting hroom
  rw [h]
  exact ⟨hw.write now hx hkeeps, hrest⟩

theorem of_run {x : Action Store α} (h : x.Spends m n) {w t : Store} {r : Except Error α}
    (hw : w.ReachableInRange) (hroom : w.Room (m + k) (n + l)) (hrun : x.run w = (r, t)) :
    t.ReachableInRange ∧ t.Room k l := by
  have hrest := h w k l hw hroom
  rwa [hrun] at hrest

theorem mono {x : Action Store α} (h : x.Spends m n) (hm : m ≤ k) (hn : n ≤ l) :
    x.Spends k l := by
  intro w i j hw hroom
  have hrest := h w (k - m + i) (l - n + j) hw (hroom.mono (by omega) (by omega))
  exact ⟨hrest.1, hrest.2.mono (by omega) (by omega)⟩

/-- A chain of actions spends what both of them spend. -/
theorem bind {x : Action Store α} {f : α → Action Store β} (hx : x.Spends m n)
    (hf : ∀ a, (f a).Spends k l) : (x >>= f).Spends (m + k) (n + l) := by
  intro w i j hw hroom
  rw [Nat.add_assoc, Nat.add_assoc] at hroom
  rw [Action.run_bind]
  rcases hrun : x.run w with ⟨e | a, t⟩ <;> obtain ⟨hreach, hrest⟩ := hx.of_run hw hroom hrun
  · exact ⟨hreach, hrest.mono (by omega) (by omega)⟩
  · exact hf a t i j hreach hrest

theorem bind_pure {x : Action Store α} (hx : x.Spends m n) (f : α → β) :
    (x >>= fun a => Pure.pure (f a)).Spends m n := hx.bind fun a => pure (f a)

end Action.Spends

end Gatehouse
