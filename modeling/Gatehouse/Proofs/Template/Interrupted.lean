import Gatehouse.Proofs.Template.Resync

/-!
# Moving users on a store that breaks down

Moving users is not done in a transaction, so a store that breaks down in the middle is left with
whatever calls were made by then.  `Backend.failingAfter` is such a store: the call after the first
`k` that give or take a role fails, and the run is over (`run_syncScenario_failingAfter`).

The calls come user by user, and for each user what is given comes before what is taken
(`Operation.Precedes`).  Because of this order every beginning of the run is on the way to where the
whole of it leads (`Store.underway_of_append`), nobody has lost a role of the scenario, and all but
one of the users are either done with or not begun (`Store.BrokenOff`).  From such a store the run
can be taken up again (`sync_can_be_taken_up`).
-/

set_option autoImplicit false

namespace Gatehouse

open Std

/-! ## A store that breaks down -/

section Failing

variable {σ τ α β : Type}

/-- Does something and counts it, unless `k` such things were done before; then it fails. -/
def Action.failingAfter (k : Nat) (e : Error) (x : Action σ α) : Action (σ × Nat) α := fun s =>
  if s.2 = k then (.error e, (s.1, s.2 + 1)) else x.onFirst (s.1, s.2 + 1)

/-- The backend on which one of the calls that give a user a role or take one away, the one after
`k` others, fails and does nothing.  Its state counts these calls. -/
def Backend.failingAfter (k : Nat) (e : Error) (b : Backend σ τ) : Backend (σ × Nat) τ :=
  { b.onFirst with
    assign := fun user role => (b.assign user role).failingAfter k e
    revoke := fun user role => (b.revoke user role).failingAfter k e }

namespace Action

theorem run_onFirst (x : Action σ α) (s : σ) (n : τ) :
    x.onFirst.run (s, n) = ((x.run s).1, ((x.run s).2, n)) := rfl

theorem onFirst_bind (x : Action σ α) (f : α → Action σ β) :
    (x >>= f).onFirst (τ := τ) = x.onFirst >>= fun a => (f a).onFirst := by
  funext s
  show ((x >>= f).onFirst).run (s.1, s.2) = (x.onFirst >>= fun a => (f a).onFirst).run (s.1, s.2)
  rw [run_onFirst, run_bind, run_bind, run_onFirst]
  rcases x.run s.1 with ⟨e | a, t⟩ <;> rfl

theorem onFirst_require (absent : Absent) (o : Option α) :
    (require absent o : Action σ α).onFirst (τ := τ) = require absent o := by
  cases o <;> rfl

theorem run_map_failingAfter (f : α → β) (x : Action σ α) (k : Nat) (e : Error) (s : σ) (n : Nat) :
    (f <$> x.failingAfter k e).run (s, n) =
      if n = k then (.error e, (s, n + 1))
      else (((f <$> x).run s).1, (((f <$> x).run s).2, n + 1)) := by
  have hx : (x.failingAfter k e).run (s, n) =
      if n = k then (.error e, (s, n + 1)) else x.onFirst.run (s, n + 1) := rfl
  rw [map_eq_pure_bind, map_eq_pure_bind, run_bind, run_bind, hx]
  by_cases hk : n = k
  · rw [if_pos hk, if_pos hk]
  · rw [if_neg hk, if_neg hk, run_onFirst]
    rcases x.run s with ⟨e' | a, t⟩ <;> rfl

end Action

/-- Looking up the roles of a scenario is not counted and cannot break down. -/
theorem Backend.knownRoles_failingAfter (k : Nat) (e : Error) (b : Backend σ τ) (scenario : String)
    (ds : List RoleTemplate) :
    (b.failingAfter k e).knownRoles scenario ds = (b.knownRoles scenario ds).onFirst := by
  induction ds with
  | nil => rfl
  | cons d rest ih =>
    simp only [knownRoles, Action.onFirst_bind, Action.onFirst_require, ih]
    rfl

end Failing

/-! ## How the run breaks off -/

section Run

variable (now : Stamp) {s : Store}

theorem Operation.AboutLinks.run_failingAfter {op : Operation} (h : op.AboutLinks s) (k : Nat)
    (e : Error) (n : Nat) :
    (op.perform ((Backend.memory now).failingAfter k e)).run (s, n) =
      if n = k then (.error e, (s, n + 1)) else (.ok (), (op.after (.memory now) s, n + 1)) := by
  have hrun := h.run now
  cases op with
  | assign user id =>
    have hfail := Action.run_map_failingAfter (fun _ => ()) ((Backend.memory now).assign user id)
      k e s n
    rw [perform] at hrun
    rwa [hrun] at hfail
  | revoke user id => exact Action.run_map_failingAfter ..
  | _ => exact h.elim

/-- The calls before the one that fails are made, and if that is one of them, none after it. -/
theorem run_performAll_failingAfter {ops : List Operation} (h : ∀ op ∈ ops, op.AboutLinks s)
    (k : Nat) (e : Error) {n : Nat} (hn : n ≤ k) :
    (((Backend.memory now).failingAfter k e).performAll ops).run (s, n) =
      if n + ops.length ≤ k then (.ok (), (s.afterAll now ops, n + ops.length))
      else (.error e, (s.afterAll now (ops.take (k - n)), k + 1)) := by
  induction ops generalizing s n with
  | nil => exact (if_pos hn).symm
  | cons op rest ih =>
    have hop := h op List.mem_cons_self
    have hrun := hop.run_failingAfter now k e n
    rw [Backend.performAll]
    rcases Nat.eq_or_lt_of_le hn with rfl | hlt
    · rw [if_pos rfl] at hrun
      rw [Action.run_bind_of_error hrun, if_neg (by simp), Nat.sub_self, List.take_zero]
      rfl
    · rw [if_neg (Nat.ne_of_lt hlt)] at hrun
      have hrest : ∀ op' ∈ rest, op'.AboutLinks (op.after (.memory now) s) := fun op' hop' =>
        (h op' (List.mem_cons_of_mem op hop')).of_roles (hop.roles_after now)
      have hsub : k - n = k - (n + 1) + 1 := by omega
      have hlength : n + 1 + rest.length = n + (op :: rest).length := by
        rw [List.length_cons]
        omega
      rw [Action.run_bind_of_ok hrun, ih hrest hlt, hsub, hlength]
      rfl

/-- Moving users on a store that breaks down makes the calls up to the one that fails. -/
theorem run_syncScenario_failingAfter (hs : s.Coherent) {sc : Scenario}
    (hthere : ∀ d ∈ sc.roles, ∃ r ∈ s.roles, r.name = d.name) (k : Nat) (e : Error) :
    (((Backend.memory now).failingAfter k e).syncScenario sc false).run (s, 0) =
      if (s.syncCalls sc).length ≤ k then
        (.ok ⟨sc.name, false, s.syncChanges sc⟩,
          (s.afterAll now (s.syncCalls sc), (s.syncCalls sc).length))
      else (.error e, (s.afterAll now ((s.syncCalls sc).take k), k + 1)) := by
  have hknown : (((Backend.memory now).failingAfter k e).knownRoles sc.name sc.roles).run (s, 0) =
      (.ok (s.known sc.roles), (s, 0)) := by
    rw [Backend.knownRoles_failingAfter, Action.run_onFirst, run_knownRoles_memory,
      find?_isNone_eq_none_iff.2 hthere]
  have hperform := run_performAll_failingAfter now (Store.aboutLinks_syncCalls hs sc) k e
    (Nat.zero_le k)
  rw [Nat.zero_add, Nat.sub_zero] at hperform
  have hreal : (!false) = true := rfl
  rw [Backend.run_syncScenario_of_reads hknown rfl rfl]
  simp only [if_pos hreal]
  by_cases hk : (s.syncCalls sc).length ≤ k
  · rw [if_pos hk] at hperform ⊢
    exact Action.run_bind_of_ok hperform
  · rw [if_neg hk] at hperform ⊢
    exact Action.run_bind_of_error hperform

end Run

/-! ## The order of the calls -/

/-- The user whom a call about links is about. -/
def Operation.user? : Operation → Option UserId
  | .assign user _ | .revoke user _ => some user
  | _ => none

theorem Operation.AboutLinks.exists_user {s : Store} {op : Operation} (h : op.AboutLinks s) :
    ∃ user, op.user? = some user := by
  cases op with
  | assign user id => exact ⟨user, rfl⟩
  | revoke user id => exact ⟨user, rfl⟩
  | _ => exact h.elim

/-- How calls about links follow each other: users come in ascending order, and what a user is given
comes before what is taken from the user. -/
inductive Operation.Precedes : Operation → Operation → Prop
  /-- The second call is about a later user. -/
  | user {op op' : Operation} {user user' : UserId} (first : op.user? = some user)
      (second : op'.user? = some user') (later : compare user user' = .lt) : Precedes op op'
  /-- The first call gives the user of the second one a role. -/
  | assign {op' : Operation} {user : UserId} {id : RoleId} (second : op'.user? = some user) :
      Precedes (.assign user id) op'
  /-- Both take a role from a user. -/
  | revoke {user : UserId} {id id' : RoleId} : Precedes (.revoke user id) (.revoke user id')

/-- Users come in ascending order. -/
theorem Operation.Precedes.isLE {op op' : Operation} (h : op.Precedes op') {user user' : UserId}
    (hop : op.user? = some user) (hop' : op'.user? = some user') :
    (compare user user').isLE = true := by
  cases h with
  | user first second later =>
    rw [hop] at first
    rw [hop'] at second
    cases first
    cases second
    rw [later]
    rfl
  | assign second =>
    rw [hop'] at second
    cases hop
    cases second
    exact ReflCmp.isLE_rfl
  | revoke =>
    cases hop
    cases hop'
    exact ReflCmp.isLE_rfl

/-- A role is not taken from a user before one is given. -/
theorem Operation.not_revoke_precedes_assign {user : UserId} {id id' : RoleId} :
    ¬(Operation.revoke user id).Precedes (.assign user id') := by
  intro h
  cases h with
  | user first second later =>
    cases first
    cases second
    have hself : compare user user = .eq := ReflCmp.compare_self
    rw [hself] at later
    cases later

theorem user?_of_mem_calls {known : KnownRoles} {roles : Table Role.byId} {c : UserChange}
    {op : Operation} (h : op ∈ known.calls roles c) : op.user? = some c.user := by
  rcases List.mem_append.1 h with h | h <;> obtain ⟨id, -, rfl⟩ := List.mem_map.1 h <;> rfl

/-- The calls for a change are in order. -/
theorem pairwise_calls (known : KnownRoles) (roles : Table Role.byId) (c : UserChange) :
    (known.calls roles c).Pairwise Operation.Precedes := by
  refine List.pairwise_append.2 ⟨?_, ?_, ?_⟩
  · exact List.pairwise_map.2 (List.pairwise_of_forall fun _ _ => .assign rfl)
  · exact List.pairwise_map.2 (List.pairwise_of_forall fun _ _ => .revoke)
  · intro op hop op' hop'
    obtain ⟨id, -, rfl⟩ := List.mem_map.1 hop
    obtain ⟨id', -, rfl⟩ := List.mem_map.1 hop'
    exact .assign rfl

/-- So are all calls of a run. -/
theorem pairwise_syncCalls (s : Store) (sc : Scenario) :
    (s.syncCalls sc).Pairwise Operation.Precedes := by
  refine List.pairwise_flatMap.2 ⟨fun c _ => pairwise_calls _ _ c, ?_⟩
  exact (List.pairwise_map.1 Store.ascending_syncChanges).imp fun hlater op hop op' hop' =>
    .user (user?_of_mem_calls hop) (user?_of_mem_calls hop') hlater

/-! ## What is left behind -/

/-- The store `w` is what a run that broke off has left of the store `s`; without the break the
store `t` would have come out. -/
structure Store.BrokenOff (s t : Store) (sc : Scenario) (w : Store) : Prop
    extends Store.Underway s t w where
  /-- Users hold every role of the scenario that they held before. -/
  roles : ∀ user, ∀ d ∈ sc.roles, s.Holds user d.name → w.Holds user d.name
  /-- The users before one of them hold what they will hold, those after this one what they held. -/
  one : ∃ user, ∀ other id,
    (compare other user = .lt → (⟨other, id⟩ ∈ w.links ↔ ⟨other, id⟩ ∈ t.links)) ∧
      (compare other user = .gt → (⟨other, id⟩ ∈ w.links ↔ ⟨other, id⟩ ∈ s.links))

namespace Store

variable (now : Stamp) {s t w : Store} {sc : Scenario}

/-- On the way, users keep the roles of the scenario. -/
theorem Underway.holds (h : s.Underway (s.afterAll now (s.syncCalls sc)) w) (hs : s.Coherent)
    (hthere : ∀ d ∈ sc.roles, ∃ r ∈ s.roles, r.name = d.name) {user : UserId} {d : RoleTemplate}
    (hd : d ∈ sc.roles) (hheld : s.Holds user d.name) : w.Holds user d.name := by
  obtain ⟨r, hr, hname, hl⟩ := hheld
  obtain ⟨links, hlinks, hafter⟩ := mem_links_syncCalls now hs hthere
  have hself : (s.known sc.roles).target? r = some r.name :=
    target?_eq_name hs hthere hr ⟨d, hd, hname.symm⟩
  have hwill : ⟨user, r.id⟩ ∈ (s.afterAll now (s.syncCalls sc)).links := by
    rw [hlinks]
    exact (hafter user r hr).2 (List.mem_filterMap.2 ⟨r, mem_held.2 ⟨hr, hl⟩, hself⟩)
  refine ⟨r, ?_, hname, h.kept _ hl hwill⟩
  rw [h.rest]
  exact hr

/-- Some calls of the run change links only, and users hold what they held or were given by these
calls and nothing that was taken. -/
theorem mem_links_of_subset (hs : s.Coherent)
    (hthere : ∀ d ∈ sc.roles, ∃ r ∈ s.roles, r.name = d.name) {made : List Operation}
    (hmade : made ⊆ s.syncCalls sc) :
    s.afterAll now made = { s with links := (s.afterAll now made).links } ∧
      ∀ user id, ⟨user, id⟩ ∈ (s.afterAll now made).links ↔
        (⟨user, id⟩ ∈ s.links ∨ .assign user id ∈ made) ∧ .revoke user id ∉ made := by
  have habout : ∀ op ∈ made, op.AboutLinks s := fun op hop =>
    aboutLinks_syncCalls hs sc op (hmade hop)
  obtain ⟨links, hlinks, hmem⟩ := afterAll_aboutLinks now habout fun user id hgiven htaken =>
    revoke_not_mem_syncCalls hs hthere (hmade hgiven) (hmade htaken)
  rw [hlinks]
  exact ⟨rfl, hmem⟩

/-- Wherever a run breaks off, it is on the way. -/
theorem underway_of_append (hs : s.Coherent)
    (hthere : ∀ d ∈ sc.roles, ∃ r ∈ s.roles, r.name = d.name) {made left : List Operation}
    (h : s.syncCalls sc = made ++ left) :
    s.Underway (s.afterAll now (s.syncCalls sc)) (s.afterAll now made) := by
  have hmade : made ⊆ s.syncCalls sc := h ▸ List.subset_append_left made left
  obtain ⟨-, hend⟩ := mem_links_of_subset now hs hthere (List.Subset.refl (s.syncCalls sc))
  obtain ⟨hrest, hmem⟩ := mem_links_of_subset now hs hthere hmade
  refine ⟨hrest, ?_, ?_, ?_⟩
  · rintro ⟨user, id⟩ hl hl'
    exact (hmem user id).2 ⟨.inl hl, fun htaken => ((hend user id).1 hl').2 (hmade htaken)⟩
  · rintro ⟨user, id⟩ hl
    rcases ((hmem user id).1 hl).1 with hl | hgiven
    · exact .inl hl
    · exact .inr ((hend user id).2
        ⟨.inr (hmade hgiven), revoke_not_mem_syncCalls hs hthere (hmade hgiven)⟩)
  · intro user id hl hlost id' hl'
    have htaken : .revoke user id ∈ made := by
      by_contra hnot
      exact hlost ((hmem user id).2 ⟨.inl hl, hnot⟩)
    obtain ⟨hsource, hstays⟩ := (hend user id').1 hl'
    refine (hmem user id').2 ⟨hsource.imp_right fun hgiven => ?_, fun hnot => hstays (hmade hnot)⟩
    -- The user has lost a role, so nothing that the user is given is left to do.
    rw [h, List.mem_append] at hgiven
    refine hgiven.resolve_right fun hleft => ?_
    have hordered := (List.pairwise_append.1 (h ▸ pairwise_syncCalls s sc)).2.2 _ htaken _ hleft
    exact Operation.not_revoke_precedes_assign hordered

/-- Where a run breaks off before a call for a user, those before this user have got all their calls
and those after have not got any. -/
theorem mem_links_of_append_cons (hs : s.Coherent)
    (hthere : ∀ d ∈ sc.roles, ∃ r ∈ s.roles, r.name = d.name) {made left : List Operation}
    {op : Operation} {user : UserId} (h : s.syncCalls sc = made ++ op :: left)
    (hop : op.user? = some user) (other : UserId) (id : RoleId) :
    (compare other user = .lt → (⟨other, id⟩ ∈ (s.afterAll now made).links ↔
        ⟨other, id⟩ ∈ (s.afterAll now (s.syncCalls sc)).links)) ∧
      (compare other user = .gt →
        (⟨other, id⟩ ∈ (s.afterAll now made).links ↔ ⟨other, id⟩ ∈ s.links)) := by
  have hmade : made ⊆ s.syncCalls sc := h ▸ List.subset_append_left made (op :: left)
  obtain ⟨-, hend⟩ := mem_links_of_subset now hs hthere (List.Subset.refl (s.syncCalls sc))
  obtain ⟨-, hmem⟩ := mem_links_of_subset now hs hthere hmade
  obtain ⟨-, hleft, hbefore⟩ := List.pairwise_append.1 (h ▸ pairwise_syncCalls s sc)
  constructor
  · intro hlt
    have hnone : ∀ op' ∈ op :: left, op'.user? ≠ some other := fun op' hop' hother => by
      have hle : (compare user other).isLE = true := by
        rcases List.mem_cons.1 hop' with rfl | hop'
        · rw [hop] at hother
          cases hother
          exact ReflCmp.isLE_rfl
        · exact ((List.pairwise_cons.1 hleft).1 op' hop').isLE hop hother
      have hgt : compare user other = .gt := OrientedCmp.gt_of_lt hlt
      rw [hgt] at hle
      cases hle
    have hgiven : .assign other id ∉ op :: left := fun hop' => hnone _ hop' rfl
    have htaken : .revoke other id ∉ op :: left := fun hop' => hnone _ hop' rfl
    rw [hmem, hend, h, List.mem_append, List.mem_append]
    tauto
  · intro hgt
    have hnone : ∀ op' ∈ made, op'.user? ≠ some other := fun op' hop' hother => by
      have hle := (hbefore op' hop' op List.mem_cons_self).isLE hother hop
      rw [hgt] at hle
      cases hle
    have hgiven : .assign other id ∉ made := fun hop' => hnone _ hop' rfl
    have htaken : .revoke other id ∉ made := fun hop' => hnone _ hop' rfl
    rw [hmem]
    tauto

theorem brokenOff_of_append (hs : s.Coherent)
    (hthere : ∀ d ∈ sc.roles, ∃ r ∈ s.roles, r.name = d.name) {made left : List Operation}
    {op : Operation} (h : s.syncCalls sc = made ++ op :: left) :
    s.BrokenOff (s.afterAll now (s.syncCalls sc)) sc (s.afterAll now made) := by
  have hway := underway_of_append now hs hthere h
  have hop : op ∈ s.syncCalls sc := h ▸ List.mem_append_right made List.mem_cons_self
  obtain ⟨user, huser⟩ := (aboutLinks_syncCalls hs sc op hop).exists_user
  exact {
    hway with
    roles := fun _ _ hd hheld => hway.holds now hs hthere hd hheld
    one := ⟨user, mem_links_of_append_cons now hs hthere h huser⟩ }

end Store

/-! ## Taking up a run that broke off -/

/-- **A run that breaks off can be taken up again.**  Moving users makes a number of calls.  Where a
later one would fail, nothing is noticed; where one of them fails, the run ends with the error at
once and leaves a store on the way, and moving the users again leads where the first run would
have led. -/
theorem sync_can_be_taken_up (now : Stamp) {s : Store} (hs : s.Reachable) {sc : Scenario}
    (hnames : (sc.roles.map (·.name)).Nodup)
    (hthere : ∀ d ∈ sc.roles, ∃ r ∈ s.roles, r.name = d.name) :
    ∃ report t calls, ((Backend.memory now).syncScenario sc false).run s = (.ok report, t) ∧
      s.Synced t sc report ∧ ∀ k e,
        (calls ≤ k → (((Backend.memory now).failingAfter k e).syncScenario sc false).run (s, 0) =
          (.ok report, (t, calls))) ∧
        (k < calls → ∃ w,
          (((Backend.memory now).failingAfter k e).syncScenario sc false).run (s, 0) =
            (.error e, (w, k + 1)) ∧
          s.BrokenOff t sc w ∧
          ∀ now', ∃ report', ((Backend.memory now').syncScenario sc false).run w =
            (.ok report', t)) := by
  have hrun := run_syncScenario_memory now hs.coherent hthere false
  rw [if_neg Bool.false_ne_true] at hrun
  refine ⟨_, _, (s.syncCalls sc).length, hrun, Store.synced_syncCalls now hs hthere hnames,
    fun k e => ⟨fun hk => ?_, fun hk => ?_⟩⟩
  · rw [run_syncScenario_failingAfter now hs.coherent hthere, if_pos hk]
  · have hsplit : s.syncCalls sc = (s.syncCalls sc).take k ++
        (s.syncCalls sc)[k] :: (s.syncCalls sc).drop (k + 1) := by
      rw [List.getElem_cons_drop, List.take_append_drop]
    have hbroken := Store.brokenOff_of_append now hs.coherent hthere hsplit
    have hreach : (s.afterAll now ((s.syncCalls sc).take k)).Reachable :=
      hs.afterAll_of_proper now fun op hop =>
        (Store.aboutLinks_syncCalls hs.coherent sc op (List.mem_of_mem_take hop)).proper
    refine ⟨s.afterAll now ((s.syncCalls sc).take k), ?_, hbroken, fun now' =>
      ⟨⟨sc.name, false, Store.syncChanges (s.afterAll now ((s.syncCalls sc).take k)) sc⟩, ?_⟩⟩
    · rw [run_syncScenario_failingAfter now hs.coherent hthere, if_neg (Nat.not_le.2 hk)]
    · rw [run_syncScenario_memory now' hreach.coherent (hbroken.there hthere),
        if_neg Bool.false_ne_true,
        hbroken.afterAll_syncCalls now now' hs hreach hthere]

/-- The fourth call for the crew fails, when one user has been given the first of two roles. -/
theorem sync_can_be_taken_up_tavern :
    ∃ report t w, ((Backend.memory newYear).syncScenario tavern false).run crew = (.ok report, t) ∧
      (((Backend.memory newYear).failingAfter 3 (.database "locked")).syncScenario tavern false).run
        (crew, 0) = (.error (.database "locked"), (w, 4)) ∧
      crew.BrokenOff t tavern w ∧
      w.links.rows = [⟨⟨1⟩, ⟨2⟩⟩, ⟨⟨3⟩, ⟨1⟩⟩, ⟨⟨3⟩, ⟨3⟩⟩, ⟨⟨3⟩, ⟨5⟩⟩, ⟨⟨4⟩, ⟨2⟩⟩] ∧
      ∀ now', ∃ report', ((Backend.memory now').syncScenario tavern false).run w =
        (.ok report', t) := by
  have hnames : (tavern.roles.map (·.name)).Nodup := by decide
  obtain ⟨report, t, calls, hrun, -, hfault⟩ :=
    sync_can_be_taken_up newYear reachable_crew hnames tavern_there_crew
  obtain ⟨hnone, hsome⟩ := hfault 3 (.database "locked")
  have hfails : ((((Backend.memory newYear).failingAfter 3 (.database "locked")).syncScenario tavern
      false).run (crew, 0)).1.isOk = false := by decide +kernel
  have hk : 3 < calls := by
    by_contra hle
    rw [hnone (Nat.not_lt.1 hle)] at hfails
    cases hfails
  obtain ⟨w, hbreak, hbroken, hagain⟩ := hsome hk
  have hlinks : ((((Backend.memory newYear).failingAfter 3 (.database "locked")).syncScenario tavern
      false).run (crew, 0)).2.1.links.rows =
        [⟨⟨1⟩, ⟨2⟩⟩, ⟨⟨3⟩, ⟨1⟩⟩, ⟨⟨3⟩, ⟨3⟩⟩, ⟨⟨3⟩, ⟨5⟩⟩, ⟨⟨4⟩, ⟨2⟩⟩] := by decide +kernel
  rw [hbreak] at hlinks
  exact ⟨report, t, w, hrun, hbreak, hbroken, hlinks, hagain⟩

end Gatehouse
