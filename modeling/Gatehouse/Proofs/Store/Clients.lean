import Gatehouse.Proofs.Store.Activity
import Gatehouse.Proofs.Store.Memory
import Mathlib.Logic.Function.Basic

/-!
# Clients that share a store

Any number of clients share a store.  It has a lock that several clients can hold for reading, or
one client alone; a client that makes a call, or opens a transaction, holds it alone from before the
call, or the copying, until it leaves.  A commit puts the copy in place of the whole store.

The steps of the clients interleave in any way that the lock allows (`Scene.Run`).  To say that this
comes to the same as having the clients one after the other, the trace of a run is read once more:
where a client takes the lock for itself, its whole turn is looked up in the rest of the trace, and
all of its calls that come to have an effect are put here (`effective`).  A transaction that is
dropped, or still open, has none.

The invariant is `Scene.Sound`.  Either nobody holds the lock alone, and then every turn so far is
over; or one client does, and then everybody else can only ask for the lock or stop waiting for it
since this client took it.  `Scene.Sound.step` goes through the steps, and
`clients_are_serializable` collects what follows for a whole run.
-/

set_option autoImplicit false

namespace Gatehouse

/-! ## Steps -/

/-- What a client does in a step. -/
inductive Deed where
  /-- Asks for the lock. -/
  | ask
  /-- Takes the lock together with other readers. -/
  | share
  /-- Reads the store, and sees this. -/
  | look (seen : Store)
  /-- Takes the lock for itself alone. -/
  | lock
  /-- Makes a call on the store. -/
  | call (now : Stamp) (op : Operation)
  /-- Opens a transaction. -/
  | begin (now : Stamp)
  /-- Reads the copy of its transaction, and sees this. -/
  | view (seen : Store)
  /-- Makes a call in its transaction. -/
  | write (now : Stamp) (x : Write)
  /-- Commits its transaction. -/
  | commit (now : Stamp)
  /-- Gives the lock back, or stops waiting for it.  A transaction that is open is dropped. -/
  | leave
deriving DecidableEq

/-- How a client stands to the lock. -/
inductive Place where
  /-- It has nothing to do with it. -/
  | away
  /-- It waits for it. -/
  | waiting
  /-- It holds it together with other readers. -/
  | sharing
  /-- It holds it alone. -/
  | alone
  /-- It holds it alone, in a transaction with this copy. -/
  | working (copy : Store)
  /-- It holds it alone still, after its call or its commit. -/
  | done
deriving DecidableEq

/-- The client holds the lock alone. -/
def Place.exclusive : Place → Bool
  | .alone | .working _ | .done => true
  | .away | .waiting | .sharing => false

/-- The client holds the lock. -/
def Place.holds : Place → Bool
  | .sharing => true
  | p => p.exclusive

theorem Place.holds_of_exclusive {p : Place} (h : p.exclusive = true) : p.holds = true := by
  cases p <;> first | rfl | cases h

/-- A store and the clients that share it. -/
structure Scene (ι : Type) where
  /-- The store. -/
  store : Store
  /-- How each client stands to the lock. -/
  place : ι → Place

variable {ι : Type} [DecidableEq ι]

namespace Scene

/-- Nobody has begun. -/
def start (s : Store) : Scene ι := ⟨s, fun _ => .away⟩

/-- A client comes to stand differently to the lock. -/
def move (x : Scene ι) (c : ι) (p : Place) : Scene ι :=
  { x with place := Function.update x.place c p }

@[simp] theorem store_move (x : Scene ι) (c : ι) (p : Place) : (x.move c p).store = x.store := rfl

@[simp] theorem place_move_self (x : Scene ι) (c : ι) (p : Place) : (x.move c p).place c = p :=
  Function.update_self ..

theorem place_move_of_ne {c c' : ι} (h : c' ≠ c) (x : Scene ι) (p : Place) :
    (x.move c p).place c' = x.place c' := Function.update_of_ne h ..

/-- A client does a step. -/
inductive Step (x : Scene ι) (c : ι) : Deed → Scene ι → Prop
  /-- It begins to wait. -/
  | ask (place : x.place c = .away) : Step x c .ask (x.move c .waiting)
  /-- It gets the lock together with others if nobody holds it alone. -/
  | share (place : x.place c = .waiting) (free : ∀ c', (x.place c').exclusive = false) :
      Step x c .share (x.move c .sharing)
  /-- It sees the store. -/
  | look (place : x.place c = .sharing) : Step x c (.look x.store) x
  /-- It gets the lock for itself if nobody holds it. -/
  | lock (place : x.place c = .waiting) (free : ∀ c', (x.place c').holds = false) :
      Step x c .lock (x.move c .alone)
  /-- It makes its call. -/
  | call (now : Stamp) (op : Operation) (place : x.place c = .alone) :
      Step x c (.call now op) { x.move c .done with store := op.after (.memory now) x.store }
  /-- It opens a transaction and goes on with the copy. -/
  | begin (now : Stamp) {copy t : Store} (place : x.place c = .alone)
      (run : (Backend.memory now).begin.run x.store = (.ok copy, t)) :
      Step x c (.begin now) { x.move c (.working copy) with store := t }
  /-- It sees its copy. -/
  | view {copy : Store} (place : x.place c = .working copy) : Step x c (.view copy) x
  /-- It makes a call on its copy. -/
  | write (now : Stamp) (w : Write) {copy : Store} (place : x.place c = .working copy) :
      Step x c (.write now w) (x.move c (.working (w.after (.memory now) copy)))
  /-- It commits what it has done. -/
  | commit (now : Stamp) {copy t : Store} (place : x.place c = .working copy)
      (run : ((Backend.memory now).commit copy).run x.store = (.ok (), t)) :
      Step x c (.commit now) { x.move c .done with store := t }
  /-- It does not wait for the lock or hold it any more. -/
  | leave (place : x.place c ≠ .away) : Step x c .leave (x.move c .away)

/-- The steps of the trace lead from one scene to another. -/
inductive Run : Scene ι → List (ι × Deed) → Scene ι → Prop
  | nil (x : Scene ι) : Run x [] x
  | cons {x y z : Scene ι} {c : ι} {d : Deed} {rest : List (ι × Deed)} (first : x.Step c d y)
      (run : Run y rest z) : Run x ((c, d) :: rest) z

theorem Run.exists_of_append {x z : Scene ι} {es fs : List (ι × Deed)} (h : Run x (es ++ fs) z) :
    ∃ y, Run x es y ∧ Run y fs z := by
  induction es generalizing x with
  | nil => exact ⟨x, .nil x, h⟩
  | cons e rest ih =>
    cases h with
    | cons first run =>
      obtain ⟨y, hrest, hfs⟩ := ih run
      exact ⟨y, .cons first hrest, hfs⟩

end Scene

/-! ## One client after the other -/

/-- The call on the store that a deed comes to, if the client commits or if it does not. -/
def Deed.effect (committed : Bool) : Deed → Option (Stamp × Operation)
  | .call now op => some (now, op)
  | .write now x => if committed then some (now, x.operation) else none
  | _ => none

/-- The deed commits a transaction. -/
def Deed.commits : Deed → Bool
  | .commit _ => true
  | _ => false

/-- The calls that the deeds of a turn come to. -/
def effectOf (deeds : List Deed) : List (Stamp × Operation) :=
  deeds.filterMap (Deed.effect (deeds.any Deed.commits))

/-- The calls that the deeds of a turn come to if they are committed. -/
def pending (deeds : List Deed) : List (Stamp × Operation) := deeds.filterMap (Deed.effect true)

theorem pending_concat (deeds : List Deed) (d : Deed) :
    pending (deeds ++ [d]) = pending deeds ++ (d.effect true).toList := by
  rw [pending, pending, List.filterMap_append]
  cases hd : d.effect true <;> simp [hd]

/-- A commit makes the calls of a turn come to have an effect. -/
theorem effectOf_concat_commit (deeds : List Deed) (now : Stamp) :
    effectOf (deeds ++ [.commit now]) = pending deeds := by
  simp [effectOf, pending, Deed.commits, Deed.effect]

/-- What a client does until it leaves. -/
def turn (c : ι) : List (ι × Deed) → List Deed
  | [] => []
  | (c', d) :: rest =>
    if c' = c then if d = .leave then [] else d :: turn c rest else turn c rest

/-- The calls that the turns of a trace come to, in the order in which the clients took the lock for
themselves. -/
def effective : List (ι × Deed) → List (Stamp × Operation)
  | [] => []
  | (c, d) :: rest => if d = .lock then effectOf (turn c rest) ++ effective rest else effective rest

/-- Whoever took the lock alone has left again. -/
def Closed : List (ι × Deed) → Prop
  | [] => True
  | (c, d) :: rest => (d = .lock → (c, .leave) ∈ rest) ∧ Closed rest

section Trace

variable {c : ι} {es fs : List (ι × Deed)}

/-- A turn that is over is not changed by what comes later. -/
theorem turn_append_of_mem (h : (c, .leave) ∈ es) : turn c (es ++ fs) = turn c es := by
  induction es with
  | nil => cases h
  | cons e rest ih =>
    obtain ⟨c', d⟩ := e
    rw [List.cons_append, turn, turn]
    by_cases hc : c' = c
    · rw [if_pos hc, if_pos hc]
      by_cases hd : d = .leave
      · rw [if_pos hd, if_pos hd]
      · rw [if_neg hd, if_neg hd, ih]
        refine (List.mem_cons.1 h).resolve_left fun heq => hd ?_
        exact (congrArg Prod.snd heq).symm
    · rw [if_neg hc, if_neg hc, ih]
      refine (List.mem_cons.1 h).resolve_left fun heq => hc ?_
      exact (congrArg Prod.fst heq).symm

/-- A turn that is not over goes on. -/
theorem turn_append_of_not_mem (h : (c, .leave) ∉ es) :
    turn c (es ++ fs) = turn c es ++ turn c fs := by
  induction es with
  | nil => rfl
  | cons e rest ih =>
    obtain ⟨c', d⟩ := e
    rw [List.cons_append, turn, turn, ih fun hrest => h (List.mem_cons_of_mem _ hrest)]
    by_cases hc : c' = c
    · have hd : d ≠ .leave := fun hd => h (by rw [hc, hd]; exact List.mem_cons_self)
      rw [if_pos hc, if_pos hc, if_neg hd, if_neg hd, List.cons_append]
    · rw [if_neg hc, if_neg hc]

theorem turn_singleton_self {d : Deed} (h : d ≠ .leave) : turn c [(c, d)] = [d] := by
  rw [turn, if_pos rfl, if_neg h, turn]

theorem turn_singleton_of_ne {c' : ι} (h : c' ≠ c) (d : Deed) : turn c [(c', d)] = [] := by
  rw [turn, if_neg h, turn]

theorem mem_of_mem_turn {d : Deed} (h : d ∈ turn c es) : (c, d) ∈ es := by
  induction es with
  | nil => cases h
  | cons e rest ih =>
    obtain ⟨c', d'⟩ := e
    rw [turn] at h
    by_cases hc : c' = c
    · rw [if_pos hc] at h
      by_cases hd : d' = .leave
      · rw [if_pos hd] at h
        cases h
      · rw [if_neg hd] at h
        rcases List.mem_cons.1 h with rfl | h
        · rw [hc]
          exact List.mem_cons_self
        · exact List.mem_cons_of_mem _ (ih h)
    · rw [if_neg hc] at h
      exact List.mem_cons_of_mem _ (ih h)

theorem effective_eq_nil (h : ∀ e ∈ es, e.2 ≠ .lock) : effective es = [] := by
  induction es with
  | nil => rfl
  | cons e rest ih =>
    rw [effective, if_neg (h e List.mem_cons_self),
      ih fun e' he' => h e' (List.mem_cons_of_mem e he')]

/-- Where every turn is over, what comes later adds its own calls only. -/
theorem effective_append (h : Closed es) :
    effective (es ++ fs) = effective es ++ effective fs := by
  induction es with
  | nil => rfl
  | cons e rest ih =>
    obtain ⟨c, d⟩ := e
    obtain ⟨hover, hrest⟩ := h
    rw [List.cons_append, effective, effective, ih hrest]
    by_cases hd : d = .lock
    · rw [if_pos hd, if_pos hd, turn_append_of_mem (hover hd), List.append_assoc]
    · rw [if_neg hd, if_neg hd]

/-- The calls up to a turn, and those of the turn. -/
theorem effective_append_lock (h : Closed es) (hfs : ∀ e ∈ fs, e.2 ≠ .lock) :
    effective (es ++ (c, .lock) :: fs) = effective es ++ effectOf (turn c fs) := by
  rw [effective_append h, effective, if_pos rfl, effective_eq_nil hfs, List.append_nil]

omit [DecidableEq ι] in
theorem Closed.append (hes : Closed es) (hfs : Closed fs) : Closed (es ++ fs) := by
  induction es with
  | nil => exact hfs
  | cons e rest ih =>
    exact ⟨fun hd => List.mem_append_left fs (hes.1 hd), ih hes.2⟩

omit [DecidableEq ι] in
theorem closed_of_not_lock (h : ∀ e ∈ es, e.2 ≠ .lock) : Closed es := by
  induction es with
  | nil => trivial
  | cons e rest ih =>
    exact ⟨fun hd => absurd hd (h e List.mem_cons_self),
      ih fun e' he' => h e' (List.mem_cons_of_mem e he')⟩

end Trace

/-! ## The invariant -/

/-- How far a client has got in its turn, which began with the first store: what it has done, how it
stands to the lock, and the store now. -/
inductive Reached (base : Store) : List Deed → Place → Store → Prop
  /-- It has only just taken the lock. -/
  | alone : Reached base [] .alone base
  /-- It works in a transaction, of which nothing is to be seen in the store. -/
  | working {deeds : List Deed} (opened : ∃ now, .begin now ∈ deeds)
      (uncommitted : deeds.any Deed.commits = false)
      (uncalled : deeds.filterMap (Deed.effect false) = []) :
      Reached base deeds (.working (base.replay (pending deeds))) base
  /-- Its calls have taken effect. -/
  | done (deeds : List Deed) : Reached base deeds .done (base.replay (effectOf deeds))

namespace Reached

variable {base t : Store} {deeds : List Deed} {p : Place}

theorem exclusive (h : Reached base deeds p t) : p.exclusive = true := by
  cases h <;> rfl

/-- The store is what the turn comes to so far. -/
theorem store (h : Reached base deeds p t) : t = base.replay (effectOf deeds) := by
  cases h with
  | alone => rfl
  | working opened uncommitted uncalled => rw [effectOf, uncommitted, uncalled]; rfl
  | done => rfl

theorem call (h : Reached base deeds .alone t) (now : Stamp) (op : Operation) :
    Reached base (deeds ++ [.call now op]) .done (op.after (.memory now) t) := by
  cases h
  exact .done [.call now op]

theorem begin (h : Reached base deeds .alone t) (now : Stamp) :
    Reached base (deeds ++ [.begin now]) (.working t) t := by
  cases h
  exact .working ⟨now, List.mem_cons_self⟩ rfl rfl

/-- In a transaction a client goes on with its copy, and the store stays as it is. -/
theorem work {copy : Store} {d : Deed} (h : Reached base deeds (.working copy) t)
    (hcommits : d.commits = false) (heffect : d.effect false = none) :
    Reached base (deeds ++ [d]) (.working (copy.replay (d.effect true).toList)) t := by
  cases h with
  | working opened uncommitted uncalled =>
    obtain ⟨now, hnow⟩ := opened
    rw [← Store.replay_append, ← pending_concat]
    refine .working ⟨now, List.mem_append_left _ hnow⟩ ?_ ?_
    · simp [uncommitted, hcommits]
    · simp [uncalled, heffect]

/-- A commit makes the copy what all calls of the turn come to. -/
theorem commit {copy : Store} (h : Reached base deeds (.working copy) t) (now : Stamp) :
    Reached base (deeds ++ [.commit now]) .done copy := by
  cases h with
  | working opened uncommitted uncalled =>
    rw [← effectOf_concat_commit deeds now]
    exact .done _

/-- Of what is done in a transaction the copy has everything and the store nothing. -/
theorem eq_of_working {copy : Store} (h : Reached base deeds (.working copy) t) :
    (∃ now, .begin now ∈ deeds) ∧ t = base ∧ copy = base.replay (pending deeds) := by
  cases h with
  | working opened uncommitted uncalled => exact ⟨opened, rfl, rfl⟩

end Reached

namespace Scene

/-- A client holds the lock alone.  Before it took the lock all turns were over, and since then the
others have only asked for the lock or stopped waiting. -/
structure Held (s : Store) (before : List (ι × Deed)) (c : ι) (after : List (ι × Deed))
    (x : Scene ι) : Prop where
  closed : Closed before
  /-- It is the last client that took the lock. -/
  single : ∀ e ∈ after, e.2 ≠ .lock
  stays : (c, .leave) ∉ after
  quiet : ∀ e ∈ after, e.1 ≠ c → e.2 = .ask ∨ e.2 = .leave
  others : ∀ c', c' ≠ c → (x.place c').holds = false
  /-- It has got as far as its deeds say. -/
  reached : Reached (s.replay (effective before)) (turn c after) (x.place c) x.store

/-- The scene is what the trace says, read as one turn after the other. -/
inductive Sound (s : Store) (trace : List (ι × Deed)) (x : Scene ι) : Prop
  /-- Nobody holds the lock alone, and all turns are over. -/
  | free (nobody : ∀ c, (x.place c).exclusive = false) (closed : Closed trace)
      (store : x.store = s.replay (effective trace))
  /-- A client holds the lock alone. -/
  | held (before : List (ι × Deed)) (c : ι) (after : List (ι × Deed))
      (trace_eq : trace = before ++ (c, .lock) :: after) (held : Held s before c after x)

variable {s : Store} {trace before after : List (ι × Deed)} {x y : Scene ι} {c c₀ : ι} {d : Deed}

namespace Held

/-- The turn goes on, and only the store and the place of the client can be different. -/
theorem go_on {p : Place} (h : Held s before c after x) (hlock : d ≠ .lock) (hleave : d ≠ .leave)
    (hp : y.place c = p) (hplace : ∀ c', c' ≠ c → y.place c' = x.place c')
    (hreached : Reached (s.replay (effective before)) (turn c after ++ [d]) p y.store) :
    Held s before c (after ++ [(c, d)]) y where
  closed := h.closed
  single := by simpa [or_imp, forall_and, hlock] using h.single
  stays := by simpa [hleave.symm] using h.stays
  quiet := by simpa [or_imp, forall_and] using h.quiet
  others c' hc' := hplace c' hc' ▸ h.others c' hc'
  reached := by
    rw [turn_append_of_not_mem h.stays, turn_singleton_self hleave, hp]
    exact hreached

/-- Somebody else begins or ends waiting. -/
theorem wait {p : Place} (h : Held s before c₀ after x) (hc : c ≠ c₀) (hd : d = .ask ∨ d = .leave)
    (hp : p.holds = false) : Held s before c₀ (after ++ [(c, d)]) (x.move c p) where
  closed := h.closed
  single := by rcases hd with rfl | rfl <;> simpa [or_imp, forall_and] using h.single
  stays := by simpa [Ne.symm hc] using h.stays
  quiet := by simpa [or_imp, forall_and, hc, hd] using h.quiet
  others c' hc' := by
    by_cases hcc : c' = c
    · rw [hcc, place_move_self, hp]
    · rw [place_move_of_ne hcc, h.others c' hc']
  reached := by
    rw [turn_append_of_not_mem h.stays, turn_singleton_of_ne hc, List.append_nil,
      place_move_of_ne (Ne.symm hc)]
    exact h.reached

/-- The turn is over, and with it all turns are. -/
theorem leave (h : Held s before c after x) :
    Sound s (before ++ (c, .lock) :: (after ++ [(c, .leave)])) (x.move c .away) := by
  have hsingle : ∀ e ∈ after ++ [(c, .leave)], e.2 ≠ .lock := by
    simpa [or_imp, forall_and] using h.single
  have hturn : turn c (after ++ [(c, .leave)]) = turn c after := by
    rw [turn_append_of_not_mem h.stays, turn, if_pos rfl, if_pos rfl, List.append_nil]
  refine .free (fun c' => ?_) (h.closed.append ⟨fun _ => by simp, closed_of_not_lock hsingle⟩) ?_
  · by_cases hc : c' = c
    · rw [hc, place_move_self]
      rfl
    · rw [place_move_of_ne hc]
      have hholds := h.others c' hc
      exact Bool.eq_false_iff.2 fun hex => by simp [Place.holds_of_exclusive hex] at hholds
  · rw [effective_append_lock h.closed hsingle, hturn, Store.replay_append, store_move]
    exact h.reached.store

end Held

namespace Sound

theorem start (s : Store) : Sound s [] (Scene.start s : Scene ι) :=
  .free (fun _ => rfl) trivial rfl

/-- The store is where the calls lead to, one client after the other. -/
theorem store_eq (h : Sound s trace x) : x.store = s.replay (effective trace) := by
  cases h with
  | free nobody closed store => exact store
  | held before c after trace_eq held =>
    rw [trace_eq, effective_append_lock held.closed held.single, Store.replay_append]
    exact held.reached.store

/-- While nobody holds the lock alone, steps are taken that leave the store as it is. -/
theorem step_free (nobody : ∀ c, (x.place c).exclusive = false) (closed : Closed trace)
    (store : x.store = s.replay (effective trace)) (hstep : x.Step c d y) :
    Sound s (trace ++ [(c, d)]) y := by
  have hnone : ∀ {d : Deed}, d ≠ .lock → x.store = s.replay (effective (trace ++ [(c, d)])) :=
    fun {d} hd => by
      have hnil : effective [(c, d)] = [] := effective_eq_nil (by simpa using hd)
      rw [effective_append closed, hnil, List.append_nil, store]
  have hmove : ∀ {d : Deed} {p : Place}, d ≠ .lock → p.exclusive = false →
      Sound s (trace ++ [(c, d)]) (x.move c p) := fun {d p} hd hp => by
    refine .free (fun c' => ?_) (closed.append (closed_of_not_lock (by simpa using hd))) (hnone hd)
    by_cases hc : c' = c
    · rw [hc, place_move_self, hp]
    · rw [place_move_of_ne hc, nobody]
  have hshut : ∀ {p : Place}, x.place c = p → p.exclusive = false := fun hp => hp ▸ nobody c
  cases hstep with
  | ask place => exact hmove (by simp) rfl
  | share place free => exact hmove (by simp) rfl
  | look place =>
    exact .free nobody (closed.append (closed_of_not_lock (by simp))) (hnone (by simp))
  | lock place free =>
    refine .held trace c [] rfl ⟨closed, by simp, by simp, by simp, fun c' hc => ?_, ?_⟩
    · rw [place_move_of_ne hc, free]
    · rw [place_move_self, store_move, ← store]
      exact .alone
  | call now op place => cases hshut place
  | begin now place run => cases hshut place
  | view place => cases hshut place
  | write now w place => cases hshut place
  | commit now place run => cases hshut place
  | leave place => exact hmove (by simp) rfl

/-- The client that holds the lock alone makes its calls or leaves. -/
theorem step_own (h : Held s before c after x) (hstep : x.Step c d y) :
    Sound s (before ++ (c, .lock) :: (after ++ [(c, d)])) y := by
  have hmoved : ∀ (p : Place) (c' : ι), c' ≠ c → (x.move c p).place c' = x.place c' :=
    fun p c' hc' => place_move_of_ne hc' x p
  have hshut : ∀ {p : Place}, x.place c = p → p.exclusive = true :=
    fun hp => hp ▸ h.reached.exclusive
  have hreached := h.reached
  have hon : ∀ {d : Deed} {z : Scene ι}, Held s before c (after ++ [(c, d)]) z →
      Sound s (before ++ (c, .lock) :: (after ++ [(c, d)])) z := .held before c _ rfl
  cases hstep with
  | ask place => cases hshut place
  | share place free => cases hshut place
  | look place => cases hshut place
  | lock place free => cases hshut place
  | call now op place =>
    rw [place] at hreached
    exact hon (h.go_on (by simp) (by simp) (place_move_self ..) (hmoved _) (hreached.call now op))
  | begin now place run =>
    rw [Backend.run_begin_memory, Prod.mk.injEq, Except.ok.injEq] at run
    obtain ⟨rfl, rfl⟩ := run
    rw [place] at hreached
    exact hon (h.go_on (by simp) (by simp) (place_move_self ..) (hmoved _) (hreached.begin now))
  | view place =>
    rw [place] at hreached
    exact hon (h.go_on (by simp) (by simp) place (fun _ _ => rfl) (hreached.work rfl rfl))
  | write now w place =>
    rw [place] at hreached
    have hwork := hreached.work (d := .write now w) rfl rfl
    rw [← w.after_operation]
    exact hon (h.go_on (by simp) (by simp) (place_move_self ..) (hmoved _) hwork)
  | commit now place run =>
    rw [Backend.run_commit_memory, Prod.mk.injEq] at run
    obtain ⟨-, rfl⟩ := run
    rw [place] at hreached
    exact hon (h.go_on (by simp) (by simp) (place_move_self ..) (hmoved _) (hreached.commit now))
  | leave place => exact h.leave

/-- While another client holds the lock alone, a client can ask for it or stop waiting. -/
theorem step_other (h : Held s before c₀ after x) (hc : c ≠ c₀) (hstep : x.Step c d y) :
    Held s before c₀ (after ++ [(c, d)]) y := by
  have hshut : ∀ {p : Place}, x.place c = p → p.holds = false := fun hp => hp ▸ h.others c hc
  have hexclusive := h.reached.exclusive
  cases hstep with
  | ask place => exact h.wait hc (.inl rfl) rfl
  | share place free => cases (free c₀).symm.trans hexclusive
  | look place => cases hshut place
  | lock place free => cases (free c₀).symm.trans (Place.holds_of_exclusive hexclusive)
  | call now op place => cases hshut place
  | begin now place run => cases hshut place
  | view place => cases hshut place
  | write now w place => cases hshut place
  | commit now place run => cases hshut place
  | leave place => exact h.wait hc (.inr rfl) rfl

/-- What a client does keeps the scene sound. -/
theorem step (h : Sound s trace x) (hstep : x.Step c d y) : Sound s (trace ++ [(c, d)]) y := by
  cases h with
  | free nobody closed store => exact step_free nobody closed store hstep
  | held before c₀ after trace_eq held =>
    rw [trace_eq, List.append_assoc, List.cons_append]
    by_cases hc : c = c₀
    · subst hc
      exact step_own held hstep
    · exact .held before c₀ _ rfl (step_other held hc hstep)

/-- So does a whole run. -/
theorem run {es : List (ι × Deed)} (h : Sound s trace x) (hrun : Run x es y) :
    Sound s (trace ++ es) y := by
  induction hrun generalizing trace with
  | nil => rwa [List.append_nil]
  | cons first run ih =>
    have hnext := ih (h.step first)
    rwa [List.append_assoc] at hnext

/-- A client in a transaction holds the lock alone since it began, and its copy is the store with
what it has done itself. -/
theorem working {copy : Store} (h : Sound s trace x) (hplace : x.place c = .working copy) :
    ∃ earlier during, trace = earlier ++ (c, .lock) :: during ∧
      (∃ now, (c, .begin now) ∈ during) ∧
      (∀ e ∈ during, e.1 ≠ c → e.2 = .ask ∨ e.2 = .leave) ∧
      x.store = s.replay (effective earlier) ∧
      copy = (s.replay (effective earlier)).replay (pending (turn c during)) := by
  cases h with
  | free nobody closed store =>
    have hfree := nobody c
    rw [hplace] at hfree
    cases hfree
  | held before c₀ after trace_eq held =>
    by_cases hc : c = c₀
    · subst hc
      obtain ⟨⟨now, hnow⟩, hstore, hcopy⟩ := (hplace ▸ held.reached).eq_of_working
      exact ⟨before, after, trace_eq, ⟨now, mem_of_mem_turn hnow⟩, held.quiet, hstore, hcopy⟩
    · have hother := held.others c hc
      rw [hplace] at hother
      cases hother

end Sound

end Scene

/-! ## Nothing is lost -/

/-- **Clients that share a store come to the same as one client after the other**, in the order in
which they took the lock, without the transactions that were dropped or are still open.  The store
is where their calls lead to one after the other, after any run and so after every step.

Whoever reads the store sees what was committed until then, and a client in a transaction sees on
top of what was committed its own calls and nothing else.  From the beginning of a transaction to
its commit the others do nothing but ask for the lock and stop waiting, so that the store is still
the one that was copied, and the commit adds the calls of the transaction to it. -/
theorem clients_are_serializable {s : Store} {trace : List (ι × Deed)} {x : Scene ι}
    (h : Scene.Run (Scene.start s) trace x) :
    x.store = s.replay (effective trace) ∧
      (∀ before c seen after, trace = before ++ (c, .look seen) :: after →
        seen = s.replay (effective before)) ∧
      (∀ before c seen after, trace = before ++ (c, .view seen) :: after →
        ∃ earlier during, before = earlier ++ (c, .lock) :: during ∧
          seen = (s.replay (effective earlier)).replay (pending (turn c during))) ∧
      ∀ before c now after, trace = before ++ (c, .commit now) :: after →
        ∃ earlier during, before = earlier ++ (c, .lock) :: during ∧
          (∃ opened, (c, .begin opened) ∈ during) ∧
          (∀ e ∈ during, e.1 ≠ c → e.2 = .ask ∨ e.2 = .leave) ∧
          s.replay (effective before) = s.replay (effective earlier) ∧
          s.replay (effective (before ++ [(c, .commit now)])) =
            (s.replay (effective earlier)).replay (pending (turn c during)) := by
  have hsound : ∀ {es : List (ι × Deed)} {y : Scene ι}, Scene.Run (Scene.start s) es y →
      Scene.Sound s es y := fun hrun => by simpa using (Scene.Sound.start s).run hrun
  -- The step in question, between what comes before it and what comes after it.
  have hsplit : ∀ {before : List (ι × Deed)} {c : ι} {d : Deed} {after : List (ι × Deed)},
      trace = before ++ (c, d) :: after →
      ∃ y z, Scene.Sound s before y ∧ y.Step c d z ∧ Scene.Sound s (before ++ [(c, d)]) z :=
    fun htrace => by
      subst htrace
      obtain ⟨y, hbefore, hrest⟩ := h.exists_of_append
      cases hrest with
      | cons first _ => exact ⟨y, _, hsound hbefore, first, (hsound hbefore).step first⟩
  refine ⟨(hsound h).store_eq, ?_, ?_, ?_⟩
  · intro before c seen after htrace
    obtain ⟨y, z, hy, hstep, -⟩ := hsplit htrace
    cases hstep with
    | look place => exact hy.store_eq
  · intro before c seen after htrace
    obtain ⟨y, z, hy, hstep, -⟩ := hsplit htrace
    cases hstep with
    | view place =>
      obtain ⟨earlier, during, hbefore, -, -, -, hcopy⟩ := hy.working place
      exact ⟨earlier, during, hbefore, hcopy⟩
  · intro before c now after htrace
    obtain ⟨y, z, hy, hstep, hz⟩ := hsplit htrace
    cases hstep with
    | commit now place run =>
      rw [Backend.run_commit_memory, Prod.mk.injEq] at run
      obtain ⟨-, rfl⟩ := run
      obtain ⟨earlier, during, hbefore, hopened, hquiet, hstore, hcopy⟩ := hy.working place
      exact ⟨earlier, during, hbefore, hopened, hquiet, hy.store_eq.symm.trans hstore,
        hz.store_eq.symm.trans hcopy⟩

/-- The store that the first client of `busyDay` leaves. -/
def printed : Store := teams.replay [(newYear, .createRole { name := "printers" })]

/-- Three clients: one creates a role in a transaction while the others come to wait, another one
looks and afterwards opens a transaction that it drops, and the third one takes a role from a
user. -/
def busyDay : List (Fin 3 × Deed) :=
  [(0, .ask), (1, .ask), (0, .lock), (0, .begin newYear),
    (0, .write newYear (.insertRole { name := "printers" })), (2, .ask), (0, .view printed),
    (0, .commit newYear), (0, .leave), (1, .share), (1, .look printed), (1, .leave), (1, .ask),
    (1, .lock), (1, .begin newYear), (1, .write newYear (.clearRole ⟨1⟩)), (1, .leave), (2, .lock),
    (2, .call newYear (.revoke ⟨7⟩ ⟨1⟩)), (2, .leave)]

/-- The day comes to creating the role and taking the other one from the user. -/
theorem clients_are_serializable_busyDay :
    ∃ x, Scene.Run (Scene.start teams) busyDay x ∧
      x.store = printed.replay [(newYear, .revoke ⟨7⟩ ⟨1⟩)] := by
  have hrun : ∃ x, Scene.Run (Scene.start teams) busyDay x := by
    refine ⟨_, .cons (.ask rfl) <| .cons (.ask rfl) <| .cons (.lock rfl (by decide +kernel)) <|
      .cons (.begin newYear rfl (Backend.run_begin_memory ..)) <|
      .cons (.write newYear _ rfl) <| .cons (.ask rfl) <| .cons (.view rfl) <|
      .cons (.commit newYear rfl (Backend.run_commit_memory ..)) <|
      .cons (.leave (by decide +kernel)) <| .cons (.share rfl (by decide +kernel)) <|
      .cons (.look rfl) <| .cons (.leave (by decide +kernel)) <| .cons (.ask rfl) <|
      .cons (.lock rfl (by decide +kernel)) <|
      .cons (.begin newYear rfl (Backend.run_begin_memory ..)) <|
      .cons (.write newYear _ rfl) <| .cons (.leave (by decide +kernel)) <|
      .cons (.lock rfl (by decide +kernel)) <| .cons (.call newYear _ rfl) <|
      .cons (.leave (by decide +kernel)) <| .nil _⟩
  obtain ⟨x, hrun⟩ := hrun
  exact ⟨x, hrun, (clients_are_serializable hrun).1⟩

end Gatehouse
