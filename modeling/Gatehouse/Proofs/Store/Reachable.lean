import Gatehouse.Proofs.Store.Operation

/-!
# The stores that can arise

A store arises from the empty one by calls, each at some moment, and by transactions, whose copy is
taken over when they are committed.  Reading, failing and dropping a transaction change nothing, so
they need no rule.  `ReachableBy Admits` are the stores that arise when every single call, also one
on the copy of a transaction, goes from one store to another as `Admits` allows:

* `Store.Reachable` allows everything, also that a counter of 32 bits wraps around;
* `Store.ReachableInRange` does not let a counter wrap.

Two invariants hold of them.  `Store.Coherent` says that names tell roles apart, that whatever
refers to a role refers to one that is there, and that a grant with an instance has an item; no
wrapping can break it.  `Store.Counted` says that the counters are ahead of all identities, which
is why a new identity is new, and that takes counters in range.  Together they are what whoever
looks at a store may rely on, `Store.Valid`.
-/

set_option autoImplicit false

namespace Gatehouse

/-! ## Reachable stores -/

/-- The copy of a transaction that was opened on `s`, after some of its calls. -/
inductive Session (Admits : Store → Store → Prop) (s : Store) : Store → Prop
  /-- A transaction starts with a copy of the store. -/
  | opened : Session Admits s s
  /-- A call works on the copy. -/
  | write {w : Store} {x : Write} (now : Stamp) (session : Session Admits s w) (proper : x.Proper)
      (admits : Admits w (x.after (.memory now) w)) : Session Admits s (x.after (.memory now) w)

/-- The store arises by calls that `Admits` allows. -/
inductive ReachableBy (Admits : Store → Store → Prop) : Store → Prop
  /-- Nothing is stored at first. -/
  | empty : ReachableBy Admits .empty
  /-- A call changes the store. -/
  | call {s : Store} {op : Operation} (now : Stamp) (reachable : ReachableBy Admits s)
      (proper : op.Proper) (admits : Admits s (op.after (.memory now) s)) :
      ReachableBy Admits (op.after (.memory now) s)
  /-- A transaction is committed. -/
  | commit {s w : Store} (reachable : ReachableBy Admits s) (session : Session Admits s w) :
      ReachableBy Admits w

/-- Neither counter wraps around between the two stores, of which the second is one call later. -/
structure Store.KeepsCounting (s t : Store) : Prop where
  /-- The counter of roles does not fall. -/
  role : s.lastRole ≤ t.lastRole
  /-- The counter of grants does not fall. -/
  grant : s.lastGrant ≤ t.lastGrant

instance (s t : Store) : Decidable (s.KeepsCounting t) :=
  decidable_of_iff (s.lastRole ≤ t.lastRole ∧ s.lastGrant ≤ t.lastGrant)
    ⟨fun h => ⟨h.1, h.2⟩, fun h => ⟨h.role, h.grant⟩⟩

/-- The store arises by calls. -/
abbrev Store.Reachable : Store → Prop := ReachableBy fun _ _ => True

/-- The store arises by calls without a counter wrapping around. -/
abbrev Store.ReachableInRange : Store → Prop := ReachableBy Store.KeepsCounting

section Induction

variable {Admits : Store → Store → Prop}

/-- A run of calls at one moment, all of them proper and admitted. -/
def Admitted (Admits : Store → Store → Prop) (now : Stamp) : Store → List Operation → Prop
  | _, [] => True
  | s, op :: rest =>
    op.Proper ∧ Admits s (op.after (.memory now) s) ∧
      Admitted Admits now (op.after (.memory now) s) rest

/-- The store after a run of calls. -/
def Store.afterAll (now : Stamp) (s : Store) (ops : List Operation) : Store :=
  ops.foldl (fun s op => op.after (.memory now) s) s

/-- A run of calls leads from a reachable store to a reachable one. -/
theorem ReachableBy.afterAll {now : Stamp} {s : Store} {ops : List Operation}
    (h : ReachableBy Admits s) (hops : Admitted Admits now s ops) :
    ReachableBy Admits (s.afterAll now ops) := by
  induction ops generalizing s with
  | nil => exact h
  | cons op rest ih =>
    obtain ⟨hproper, hadmits, hrest⟩ := hops
    exact ih (h.call now hproper hadmits) hrest

/-- What the effects preserve holds of the copy of a transaction if it held of the store. -/
theorem Session.induct {P : Store → Prop} {s w : Store}
    (step : ∀ s t : Store, s.Effect t → Admits s t → P s → P t) (h : Session Admits s w)
    (hs : P s) : P w := by
  induction h with
  | opened => exact hs
  | write now _ proper admits ih => exact step _ _ (Write.effect proper now _) admits ih

/-- What holds of the empty store and is preserved by the effects holds of every reachable one. -/
theorem ReachableBy.induct {P : Store → Prop} {s : Store} (hempty : P .empty)
    (step : ∀ s t : Store, s.Effect t → Admits s t → P s → P t) (h : ReachableBy Admits s) :
    P s := by
  induction h with
  | empty => exact hempty
  | call now _ proper admits ih => exact step _ _ (Operation.effect proper now _) admits ih
  | commit _ session ih => exact session.induct step ih

/-- A store that arises by calls that are allowed arises when more is allowed. -/
theorem Session.mono {Allows : Store → Store → Prop} (h : ∀ s t, Admits s t → Allows s t)
    {s w : Store} (hw : Session Admits s w) : Session Allows s w := by
  induction hw with
  | opened => exact .opened
  | write now _ proper admits ih => exact ih.write now proper (h _ _ admits)

@[inherit_doc Session.mono]
theorem ReachableBy.mono {Allows : Store → Store → Prop} (h : ∀ s t, Admits s t → Allows s t)
    {s : Store} (hs : ReachableBy Admits s) : ReachableBy Allows s := by
  induction hs with
  | empty => exact .empty
  | call now _ proper admits ih => exact ih.call now proper (h _ _ admits)
  | commit _ session ih => exact ih.commit (session.mono h)

end Induction

theorem Store.ReachableInRange.reachable {s : Store} (h : s.ReachableInRange) : s.Reachable :=
  h.mono fun _ _ _ => trivial

/-! ## Names and references -/

/-- Names tell roles apart, references lead to roles, and instances come with items. -/
structure Store.Coherent (s : Store) : Prop where
  /-- No two roles share a name. -/
  names : ∀ r ∈ s.roles, ∀ r' ∈ s.roles, r.name = r'.name → r = r'
  /-- Users hold roles that are there. -/
  linked : ∀ l ∈ s.links, ∃ r ∈ s.roles, r.id = l.role
  /-- A role that owns a grant is there. -/
  owned : ∀ g ∈ s.grants, ∀ id, g.owner = .role id → ∃ r ∈ s.roles, r.id = id
  /-- A grant with an instance has an item. -/
  narrowed : ∀ g ∈ s.grants, g.itemId.isSome = true → g.item.isSome = true

namespace Store

/-- Writing a role takes no identity away. -/
theorem exists_id_insert {s : Store} (role : Role) {id : RoleId} (h : ∃ r ∈ s.roles, r.id = id) :
    ∃ r ∈ s.roles.insert role, r.id = id := by
  obtain ⟨r, hr, rfl⟩ := h
  by_cases hid : r.id = role.id
  · exact ⟨role, mem_roles_insert.2 (.inl rfl), hid.symm⟩
  · exact ⟨r, mem_roles_insert.2 (.inr ⟨hr, hid⟩), rfl⟩

theorem coherent_empty : Store.empty.Coherent := by
  constructor <;> intro x hx <;> cases hx

/-- Writing a role keeps a store coherent if no role with another identity has its name. -/
theorem Coherent.insertRole {s : Store} (h : s.Coherent) {role : Role} (n : Int32)
    (hname : ∀ r ∈ s.roles, r.name = role.name → r.id = role.id) :
    Coherent { s with roles := s.roles.insert role, lastRole := n } where
  names r hr r' hr' hrr' := by
    rcases mem_roles_insert.1 hr with rfl | ⟨hold, hid⟩ <;>
      rcases mem_roles_insert.1 hr' with rfl | ⟨hold', hid'⟩
    · rfl
    · exact absurd (hname r' hold' hrr'.symm) hid'
    · exact absurd (hname r hold hrr') hid
    · exact h.names r hold r' hold' hrr'
  linked l hl := exists_id_insert role (h.linked l hl)
  owned g hg id ho := exists_id_insert role (h.owned g hg id ho)
  narrowed := h.narrowed

/-- Whatever grants are there, each of them either an old one in or out of force, or one that may be
added, keep a store coherent. -/
theorem Coherent.grants {s : Store} (h : s.Coherent) {grants : Table Grant.byId} (n : Int32)
    (howned : ∀ g ∈ grants, ∀ id, g.owner = .role id → ∃ r ∈ s.roles, r.id = id)
    (hnarrowed : ∀ g ∈ grants, g.itemId.isSome = true → g.item.isSome = true) :
    Coherent { s with grants := grants, lastGrant := n } :=
  ⟨h.names, h.linked, howned, hnarrowed⟩

theorem Coherent.effect {s t : Store} (h : s.Coherent) (he : s.Effect t) : t.Coherent := by
  cases he with
  | none => exact h
  | roleAdded role id name =>
    exact h.insertRole _ fun r hr hrname => absurd hrname (name r hr)
  | roleSet old role mem id name =>
    refine h.insertRole s.lastRole fun r hr hrname => ?_
    rcases name with name | name
    · rw [h.names r hr old mem (hrname.trans name), id]
    · exact (name r hr hrname).trans id.symm
  | linked user role mem =>
    refine { h with linked := fun l hl => ?_ }
    rcases Table.mem_insert.1 hl with rfl | ⟨hl, -⟩
    · exact ⟨role, mem, rfl⟩
    · exact h.linked l hl
  | unlinked p => exact { h with linked := fun l hl => h.linked l (Table.mem_filter.1 hl).1 }
  | grantAdded d made owner =>
    refine h.grants _ (fun g hg => ?_) fun g hg => ?_
    · rcases mem_grants_insert.1 hg with rfl | ⟨hg, -⟩
      · exact owner
      · exact h.owned g hg
    · rcases mem_grants_insert.1 hg with rfl | ⟨hg, -⟩
      · exact made.item_isSome
      · exact h.narrowed g hg
  | grantsRemoved p =>
    exact h.grants s.lastGrant (fun g hg => h.owned g (Table.mem_filter.1 hg).1)
      fun g hg => h.narrowed g (Table.mem_filter.1 hg).1
  | grantSwitched g mem active =>
    refine h.grants s.lastGrant (fun g' hg' => ?_) fun g' hg' => ?_
    · rcases mem_grants_insert.1 hg' with rfl | ⟨hg', -⟩
      · exact h.owned g mem
      · exact h.owned g' hg'
    · rcases mem_grants_insert.1 hg' with rfl | ⟨hg', -⟩
      · exact h.narrowed g mem
      · exact h.narrowed g' hg'

/-- Where names tell roles apart, a role is found by its name. -/
theorem Coherent.roleNamed?_eq_some_iff {s : Store} (h : s.Coherent) {name : String} {r : Role} :
    s.roleNamed? name = some r ↔ r ∈ s.roles ∧ r.name = name := by
  constructor
  · intro hr
    exact ⟨List.mem_of_find?_eq_some hr, by simpa using List.find?_some hr⟩
  · rintro ⟨hr, rfl⟩
    cases hfound : s.roleNamed? r.name with
    | none => exact absurd rfl (roleNamed?_eq_none_iff.1 hfound r hr)
    | some r' =>
      have hmem : r' ∈ s.roles := List.mem_of_find?_eq_some hfound
      have hname : r'.name = r.name := by simpa using List.find?_some hfound
      rw [h.names r' hmem r hr hname]

end Store

/-- **Every reachable store is coherent**, whether or not its counters have wrapped around. -/
theorem ReachableBy.coherent {Admits : Store → Store → Prop} {s : Store}
    (h : ReachableBy Admits s) : s.Coherent :=
  h.induct Store.coherent_empty fun _ _ he _ hs => hs.effect he

/-! ## Counters -/

/-- A counter that does not fall when it goes on has gone on by one. -/
theorem toInt_add_one {n : Int32} (h : n ≤ n + 1) : (n + 1).toInt = n.toInt + 1 := by
  have hlow := Int32.le_toInt n
  have hhigh := Int32.toInt_lt n
  rw [Int32.le_iff_toInt_le, Int32.toInt_add, Int.bmod_def] at h
  rw [Int32.toInt_add, Int.bmod_def]
  have hone : (1 : Int32).toInt = 1 := rfl
  rw [hone] at h ⊢
  split at h <;> split <;> omega

/-- The counters are ahead of all identities. -/
structure Store.Counted (s : Store) : Prop where
  /-- The counter of roles starts at 0. -/
  role : 0 ≤ s.lastRole
  /-- The counter of grants starts at 0. -/
  grant : 0 ≤ s.lastGrant
  /-- The identity of a role was given by the counter. -/
  roles : ∀ r ∈ s.roles, 1 ≤ r.id.value ∧ r.id.value ≤ s.lastRole
  /-- The identity of a grant was given by the counter. -/
  grants : ∀ g ∈ s.grants, 1 ≤ g.id.value ∧ g.id.value ≤ s.lastGrant

namespace Store

theorem counted_empty : Store.empty.Counted :=
  ⟨by decide, by decide, (fun _ h => by cases h), (fun _ h => by cases h)⟩

/-- A counter that does not wrap gives an identity ahead of those it gave before. -/
theorem next_ahead {n m : Int32} (h : n ≤ n + 1) (hm : 1 ≤ m ∧ m ≤ n) : 1 ≤ m ∧ m ≤ n + 1 :=
  ⟨hm.1, Int32.le_trans hm.2 h⟩

theorem one_le_next {n : Int32} (h : n ≤ n + 1) (hn : 0 ≤ n) : 1 ≤ n + 1 := by
  rw [Int32.le_iff_toInt_le] at hn ⊢
  have hnext := toInt_add_one h
  have hzero : (0 : Int32).toInt = 0 := rfl
  have hone : (1 : Int32).toInt = 1 := rfl
  omega

/-- An identity that was given is not the next one. -/
theorem ne_next {n m : Int32} (h : n ≤ n + 1) (hm : m ≤ n) : m ≠ n + 1 := by
  rintro rfl
  rw [Int32.le_iff_toInt_le] at hm
  have hnext := toInt_add_one h
  omega

theorem Counted.effect {s t : Store} (h : s.Counted) (he : s.Effect t) (hk : s.KeepsCounting t) :
    t.Counted := by
  cases he with
  | none => exact h
  | roleAdded role id name =>
    refine { h with role := Int32.le_trans h.role hk.role, roles := fun r hr => ?_ }
    rcases mem_roles_insert.1 hr with rfl | ⟨hr, -⟩
    · rw [id]
      exact ⟨one_le_next hk.role h.role, Int32.le_refl _⟩
    · exact next_ahead hk.role (h.roles r hr)
  | roleSet old role mem id name =>
    refine { h with roles := fun r hr => ?_ }
    rcases mem_roles_insert.1 hr with rfl | ⟨hr, -⟩
    · rw [id]
      exact h.roles old mem
    · exact h.roles r hr
  | linked user role mem => exact ⟨h.role, h.grant, h.roles, h.grants⟩
  | unlinked p => exact ⟨h.role, h.grant, h.roles, h.grants⟩
  | grantAdded d made owner =>
    refine { h with grant := Int32.le_trans h.grant hk.grant, grants := fun g hg => ?_ }
    rcases mem_grants_insert.1 hg with rfl | ⟨hg, -⟩
    · exact ⟨one_le_next hk.grant h.grant, Int32.le_refl _⟩
    · exact next_ahead hk.grant (h.grants g hg)
  | grantsRemoved p =>
    exact { h with grants := fun g hg => h.grants g (Table.mem_filter.1 hg).1 }
  | grantSwitched g mem active =>
    refine { h with grants := fun g' hg' => ?_ }
    rcases mem_grants_insert.1 hg' with rfl | ⟨hg', -⟩
    · exact h.grants g mem
    · exact h.grants g' hg'

/-- No role has the next identity. -/
theorem Counted.role_ne_next {s : Store} (h : s.Counted) (hk : s.lastRole ≤ s.lastRole + 1) :
    ∀ r ∈ s.roles, r.id ≠ ⟨s.lastRole + 1⟩ := fun r hr hid =>
  ne_next hk (h.roles r hr).2 (congrArg RoleId.value hid)

/-- No grant has the next identity. -/
theorem Counted.grant_ne_next {s : Store} (h : s.Counted) (hk : s.lastGrant ≤ s.lastGrant + 1) :
    ∀ g ∈ s.grants, g.id ≠ ⟨s.lastGrant + 1⟩ := fun g hg hid =>
  ne_next hk (h.grants g hg).2 (congrArg GrantId.value hid)

/-- **The counters of a store that arises with counters in range are ahead of its identities.** -/
theorem ReachableInRange.counted {s : Store} (h : s.ReachableInRange) : s.Counted :=
  h.induct counted_empty fun _ _ he hk hs => hs.effect he hk

end Store

/-! ## A store that arises -/

/-- A moment. -/
def newYear : Stamp := ⟨2025, 1, 1, 0, 0, 0, 0, by decide⟩

/-- Calls that make two roles with the same grants, one of which is there twice, a third role with a
grant of its own that a user holds, and a grant of this user. -/
def teamCalls : List Operation :=
  [.createRole { name := "writers" }, .createRole { name := "editors" },
    .createRole { name := "guests" }, .assign ⟨7⟩ ⟨3⟩,
    .createGrant (.new (.role ⟨1⟩) "news" "see"),
    .createGrant ((Draft.new (.role ⟨1⟩) "news" "see").onItem "draft").deny,
    .createGrant ((Draft.new (.role ⟨2⟩) "news" "see").onItem "draft").deny,
    .createGrant (.new (.role ⟨2⟩) "news" "see"),
    .createGrant (.new (.role ⟨2⟩) "news" "see"),
    .createGrant ((Draft.new (.role ⟨3⟩) "news" "see").onInstance "draft" 4),
    .createGrant (.new (.user ⟨7⟩) "news" "post")]

/-- The store after these calls. -/
def teams : Store := Store.empty.afterAll newYear teamCalls

theorem reachableInRange_teams : teams.ReachableInRange := by
  refine ReachableBy.empty.afterAll ?_
  have hwhole : ∀ owner action, (Draft.new owner "news" action).Made := fun _ _ => .new _ _ _
  refine ⟨trivial, by decide, trivial, by decide, trivial, by decide, trivial, by decide, ?_⟩
  refine ⟨hwhole _ _, by decide, ((hwhole _ _).onItem _).withRule _, by decide, ?_⟩
  refine ⟨((hwhole _ _).onItem _).withRule _, by decide, hwhole _ _, by decide, ?_⟩
  exact ⟨hwhole _ _, by decide, (hwhole _ _).onInstance _ _, by decide, hwhole _ _, by decide,
    trivial⟩

/-! ## What may be relied on -/

/-- What may be relied on in a store.

That roles and grants are found under their own identities (`role`, `grant`) holds of every store: a
`Table` has each identity once, and keeps a row under the one the row itself has.  The other parts
hold of the stores that arise, by induction on how they do. -/
structure Store.Valid (s : Store) : Prop where
  /-- A role is found under its own identity and under no other one, as in every store. -/
  role : ∀ id r, s.role? id = some r ↔ r ∈ s.roles ∧ r.id = id
  /-- The identities of roles are between 1 and the last one given. -/
  roles : ∀ r ∈ s.roles, 1 ≤ r.id.value ∧ r.id.value ≤ s.lastRole
  /-- A grant is found under its own identity and under no other one, as in every store. -/
  grant : ∀ id g, s.grant? id = some g ↔ g ∈ s.grants ∧ g.id = id
  /-- The identities of grants are between 1 and the last one given. -/
  grants : ∀ g ∈ s.grants, 1 ≤ g.id.value ∧ g.id.value ≤ s.lastGrant
  /-- The names of roles are pairwise distinct. -/
  names : (s.roles.rows.map (·.name)).Nodup
  /-- The roles that users hold are there. -/
  links : ∀ l ∈ s.links, ∃ r, s.role? l.role = some r
  /-- The roles that own grants are there. -/
  owners : ∀ g ∈ s.grants, ∀ id, g.owner = .role id → ∃ r, s.role? id = some r
  /-- A grant with an instance has an item. -/
  items : ∀ g ∈ s.grants, g.itemId.isSome = true → g.item.isSome = true

/-- Names that tell roles apart come once each in the table of roles. -/
theorem Store.Coherent.nodup_names {s : Store} (h : s.Coherent) :
    (s.roles.rows.map (·.name)).Nodup :=
  List.pairwise_map.2 <| (Table.nodup_rows s.roles).imp_of_mem fun hr hr' hne hname =>
    hne (h.names _ hr _ hr' hname)

theorem Store.Coherent.valid {s : Store} (h : s.Coherent) (hc : s.Counted) : s.Valid where
  role _ _ := role?_eq_some_iff
  roles := hc.roles
  grant _ _ := grant?_eq_some_iff
  grants := hc.grants
  names := h.nodup_names
  links l hl := by
    obtain ⟨r, hr, hid⟩ := h.linked l hl
    exact ⟨r, role?_eq_some_iff.2 ⟨hr, hid⟩⟩
  owners g hg id howner := by
    obtain ⟨r, hr, hid⟩ := h.owned g hg id howner
    exact ⟨r, role?_eq_some_iff.2 ⟨hr, hid⟩⟩
  items := h.narrowed

/-- **Every store that arises with counters in range is valid.**  On the way drafts may be stored
that were built, that a form asks for, or that a line stands for. -/
theorem valid_of_reachableInRange :
    (∀ (f : GrantForm) (d : Draft), f.draft = .ok d → d.Made) ∧
      (∀ (l : GrantLine) (role : RoleId), (l.draft role).Made) ∧
      ∀ s : Store, s.ReachableInRange → s.Valid :=
  ⟨fun _ _ => GrantForm.draft_made, GrantLine.draft_made, fun _ h => h.coherent.valid h.counted⟩

/-- A form for a grant of a user. -/
def loanForm : GrantForm :=
  { area := "news", item := some "draft", action := "see", user := some ⟨8⟩ }

/-- A line about a single draft. -/
def loanLine : GrantLine :=
  { area := "news", item := some "draft", action := "post", itemId := some 6 }

/-- The teams, after a role was created and got a grant in one transaction. -/
def printingTeams : Store :=
  (Write.insertGrant (loanLine.draft ⟨4⟩)).after (.memory newYear)
    ((Write.insertRole { name := "printers" }).after (.memory newYear) teams)

/-- The calls that rename the guests, let a user be a printer, store what the form asks for and
remove what was stored first. -/
def loanCalls : List Operation :=
  [.changeRole ⟨3⟩ { name := some "visitors" }, .assign ⟨8⟩ ⟨4⟩,
    .createGrant ((Draft.new (.user ⟨8⟩) "news" "see").onItem "draft"), .deleteGrant ⟨1⟩]

/-- The store after the transaction and these calls is valid. -/
theorem valid_of_reachableInRange_loan :
    loanForm.draft = .ok ((Draft.new (.user ⟨8⟩) "news" "see").onItem "draft") ∧
      (printingTeams.afterAll newYear loanCalls).ReachableInRange ∧
      (printingTeams.afterAll newYear loanCalls).Valid := by
  obtain ⟨hforms, hlines, hvalid⟩ := valid_of_reachableInRange
  have hform : loanForm.draft = .ok ((Draft.new (.user ⟨8⟩) "news" "see").onItem "draft") := rfl
  have hsession : Session Store.KeepsCounting teams printingTeams :=
    (Session.opened.write (x := .insertRole { name := "printers" }) newYear trivial
      (by decide +kernel)).write newYear (hlines loanLine ⟨4⟩) (by decide +kernel)
  have hreach : (printingTeams.afterAll newYear loanCalls).ReachableInRange :=
    (reachableInRange_teams.commit hsession).afterAll
      ⟨trivial, by decide +kernel, trivial, by decide +kernel, hforms _ _ hform,
        by decide +kernel, trivial, by decide +kernel, trivial⟩
  exact ⟨hform, hreach, hvalid _ hreach⟩

end Gatehouse
