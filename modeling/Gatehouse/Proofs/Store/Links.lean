import Gatehouse.Proofs.Export.Classification
import Gatehouse.Proofs.Template.Exchange

/-!
# Who holds which role

That a user holds a role is kept as a link, and can be looked at in three ways: by user, by role, or
all at once.  The look by user leaves out a link to a role that is not there, so it is only because
links lead to roles in a store that arises that the three agree (`Store.LinksViewed`).

A link is made and undone by calls that tell whether they changed something (`LinkChange`).  All
that such a call does is to settle whether its link is there (`LinkChange.mem_links_after`); hence
making it again changes nothing, and calls for different links do not get in each other's way
(`Store.LinksChanged`).
-/

set_option autoImplicit false

namespace Gatehouse

open Std

/-! ## Three views -/

/-- A link comes before another one: by its user, then its role. -/
inductive Link.Before (l l' : Link) : Prop
  /-- The users tell them apart, -/
  | user : l.user.value < l'.user.value → l.Before l'
  /-- or for one user the roles. -/
  | role : l.user = l'.user → l.role.value < l'.role.value → l.Before l'

theorem Link.order_eq_lt_iff {l l' : Link} : l.order l' = .lt ↔ l.Before l' := by
  simp only [order, compareLex, compareOn, Ordering.then_eq_lt, LawfulEqCmp.compare_eq_iff_eq,
    UserId.compare_eq_lt_iff, RoleId.compare_eq_lt_iff]
  constructor
  · rintro (h | ⟨heq, h⟩)
    · exact .user h
    · exact .role heq h
  · rintro (h | ⟨heq, h⟩)
    · exact .inl h
    · exact .inr ⟨heq, h⟩

/-- The three views of the links in a store, and that they agree. -/
structure Store.LinksViewed (now : Stamp) (s : Store) : Prop where
  /-- The roles of a user are listed by name. -/
  rolesOf : ∀ user, ((Backend.memory now).rolesOf user).run s = (.ok (s.rolesOf user), s) ∧
    (s.rolesOf user).Pairwise fun r r' => r.name < r'.name
  /-- The users of a role are listed in order, -/
  usersOf : ∀ id, ((Backend.memory now).usersOf id).run s = (.ok (s.usersOf id), s) ∧
    (s.usersOf id).Pairwise fun user user' => user.value < user'.value
  /-- and so are all links. -/
  links : (Backend.memory now).links.run s = (.ok s.links.rows, s) ∧
    s.links.rows.Pairwise Link.Before
  /-- Whether a user holds a role of the store is seen alike in all of them. -/
  agree : ∀ user, ∀ r ∈ s.roles, (r ∈ s.rolesOf user ↔ user ∈ s.usersOf r.id) ∧
    (user ∈ s.usersOf r.id ↔ ⟨user, r.id⟩ ∈ s.links.rows)
  /-- Only such roles are held. -/
  stored : ∀ user, ∀ r ∈ s.rolesOf user, r ∈ s.roles
  /-- No link is left out. -/
  whole : ∀ l ∈ s.links.rows, ∃ r ∈ s.rolesOf l.user, r.id = l.role

namespace Store

variable {s : Store} {user : UserId} {id : RoleId}

theorem pairwise_links (s : Store) : s.links.rows.Pairwise Link.Before :=
  s.links.ascending.imp Link.order_eq_lt_iff.1

theorem rolesOf_eq (s : Store) (user : UserId) :
    s.rolesOf user = sortBy Role.byName (s.held user) := rfl

theorem mem_rolesOf {r : Role} :
    r ∈ s.rolesOf user ↔ r ∈ s.roles ∧ ⟨user, r.id⟩ ∈ s.links := by
  rw [rolesOf_eq, mem_sortBy, mem_held]

theorem mem_usersOf : user ∈ s.usersOf id ↔ ⟨user, id⟩ ∈ s.links := by
  simp only [usersOf, List.mem_map, List.mem_filter, beq_iff_eq, Table.mem_def]
  constructor
  · rintro ⟨l, ⟨hl, rfl⟩, rfl⟩
    exact hl
  · exact fun hl => ⟨_, ⟨hl, rfl⟩, rfl⟩

/-- A user holds a role once. -/
theorem nodup_held (s : Store) (user : UserId) : (s.held user).Nodup := by
  refine List.pairwise_filterMap.2 <| ((Table.nodup_rows s.links).filter _).imp_of_mem ?_
  rintro ⟨u, id⟩ ⟨u', id'⟩ hl hl' hne r hr r' hr' rfl
  have huser : u = u' := (beq_iff_eq.1 (List.mem_filter.1 hl).2).trans
    (beq_iff_eq.1 (List.mem_filter.1 hl').2).symm
  have hrole : id = id' := (role?_eq_some_iff.1 hr).2.symm.trans (role?_eq_some_iff.1 hr').2
  exact hne (by rw [huser, hrole])

/-- Where names tell roles apart, those of a user are in order by name. -/
theorem Coherent.pairwise_rolesOf (hs : s.Coherent) (user : UserId) :
    (s.rolesOf user).Pairwise fun r r' => r.name < r'.name := by
  have hsorted : Ascending Role.byName (s.rolesOf user) :=
    ascending_sortBy_of_distinct (s.nodup_held user) fun r hr r' hr' h =>
      hs.names r (Store.mem_held.1 hr).1 r' (Store.mem_held.1 hr').1
        (LawfulEqCmp.eq_of_compare h)
  exact hsorted.imp compare_string_eq_lt_iff.1

theorem pairwise_usersOf (s : Store) (id : RoleId) :
    (s.usersOf id).Pairwise fun user user' => user.value < user'.value := by
  refine List.pairwise_map.2 <| (s.pairwise_links.filter _).imp_of_mem fun {l l'} hl hl' h => ?_
  have hrole : l.role = l'.role := (beq_iff_eq.1 (List.mem_filter.1 hl).2).trans
    (beq_iff_eq.1 (List.mem_filter.1 hl').2).symm
  cases h with
  | user h => exact h
  | role _ h =>
    rw [hrole] at h
    exact absurd h Int32.lt_irrefl

theorem Coherent.linksViewed (hs : s.Coherent) (now : Stamp) : s.LinksViewed now where
  rolesOf user := ⟨rfl, hs.pairwise_rolesOf user⟩
  usersOf id := ⟨rfl, s.pairwise_usersOf id⟩
  links := ⟨rfl, s.pairwise_links⟩
  agree user r hr := by
    rw [mem_rolesOf, mem_usersOf]
    exact ⟨and_iff_right hr, Iff.rfl⟩
  stored user r hr := (mem_rolesOf.1 hr).1
  whole l hl := by
    obtain ⟨r, hr, hid⟩ := hs.linked l hl
    exact ⟨r, mem_rolesOf.2 ⟨hr, hid ▸ hl⟩, hid⟩

end Store

/-! ## Calls for a link -/

/-- A call that lets a user hold a role or takes it away. -/
inductive LinkChange where
  /-- Lets the user of the link hold its role. -/
  | assign (l : Link)
  /-- Takes the role from the user. -/
  | revoke (l : Link)
deriving DecidableEq, Repr

namespace LinkChange

/-- The link that the call is about. -/
def link : LinkChange → Link
  | .assign l => l
  | .revoke l => l

/-- Makes the call; it tells whether it changed something. -/
def make {σ τ : Type} (b : Backend σ τ) : LinkChange → Action σ Bool
  | .assign l => b.assign l.user l.role
  | .revoke l => b.revoke l.user l.role

/-- What the call answers. -/
def answer (c : LinkChange) (now : Stamp) (s : Store) : Except Error Bool :=
  ((c.make (.memory now)).run s).1

/-- The store after the call, also if it fails. -/
def after (c : LinkChange) (now : Stamp) (s : Store) : Store :=
  ((c.make (.memory now)).run s).2

variable {c c' : LinkChange} {s t : Store} {l : Link} (now later : Stamp)

/-! ## What the calls do -/

theorem run_assign (h : ∃ r ∈ s.roles, r.id = l.role) :
    ((assign l).make (.memory now)).run s =
      (.ok (decide (l ∉ s.links)), { s with links := s.links.insert l }) :=
  Action.run_attempt_eq_ok_iff.2 (Store.assign_eq_ok_iff.2 ⟨h, rfl, rfl⟩)

theorem run_assign_of_missing (h : ¬∃ r ∈ s.roles, r.id = l.role) :
    ((assign l).make (.memory now)).run s = (.error (.notFound (.role l.role)), s) := by
  have hnone : s.role? l.role = none :=
    Store.role?_eq_none_iff.2 fun r hr hid => h ⟨r, hr, hid⟩
  exact Action.run_attempt_of_error (by rw [Store.assign, hnone])

theorem run_revoke : ((revoke l).make (.memory now)).run s =
    (.ok (decide (l ∈ s.links)), { s with links := s.links.filter (· ≠ l) }) := rfl

/-- A call changes nothing but links, -/
theorem after_eq (c : LinkChange) (s : Store) :
    c.after now s = { s with links := (c.after now s).links } := by
  cases c with
  | assign l =>
    by_cases h : ∃ r ∈ s.roles, r.id = l.role
    · rw [after, run_assign now h]
    · rw [after, run_assign_of_missing now h]
  | revoke l => rfl

theorem roles_after (c : LinkChange) (s : Store) : (c.after now s).roles = s.roles := by
  rw [after_eq]

/-- and of these only its own. -/
theorem mem_links_after : l ∈ (c.after now s).links ↔ match c with
    | .assign l' => l ∈ s.links ∨ l = l' ∧ ∃ r ∈ s.roles, r.id = l'.role
    | .revoke l' => l ∈ s.links ∧ l ≠ l' := by
  cases c with
  | assign l' =>
    by_cases h : ∃ r ∈ s.roles, r.id = l'.role
    · rw [after, run_assign now h, Table.mem_insert_self_key]
      simp only [h, and_true, or_comm]
    · rw [after, run_assign_of_missing now h]
      simp only [h, and_false, or_false]
  | revoke l' => rw [after, run_revoke, Table.mem_filter, decide_eq_true_iff]

theorem mem_links_after_of_ne (h : l ≠ c.link) : l ∈ (c.after now s).links ↔ l ∈ s.links := by
  cases c <;> simp only [mem_links_after, link] at h ⊢ <;> tauto

/-- Whether a link is there after a call depends only on the roles and on whether it was there, -/
theorem mem_links_after_congr (hroles : t.roles = s.roles) (hlink : l ∈ t.links ↔ l ∈ s.links) :
    l ∈ (c.after later t).links ↔ l ∈ (c.after now s).links := by
  cases c <;> simp only [mem_links_after, hroles, hlink]

/-- and so does the answer, for the link of the call. -/
theorem answer_congr (hroles : t.roles = s.roles) (hlink : c.link ∈ t.links ↔ c.link ∈ s.links) :
    c.answer later t = c.answer now s := by
  cases c with
  | assign l =>
    by_cases h : ∃ r ∈ s.roles, r.id = l.role
    · have ht : ∃ r ∈ t.roles, r.id = l.role := hroles ▸ h
      rw [answer, answer, run_assign now h, run_assign later ht]
      exact congrArg Except.ok (decide_eq_decide.2 (not_congr hlink))
    · have ht : ¬∃ r ∈ t.roles, r.id = l.role := hroles ▸ h
      rw [answer, answer, run_assign_of_missing now h, run_assign_of_missing later ht]
  | revoke l => exact congrArg Except.ok (decide_eq_decide.2 hlink)

/-- Stores that have become of one store by calls are known by their links. -/
theorem eq_of_links {u : Store} (ht : t = { s with links := t.links })
    (hu : u = { s with links := u.links }) (h : ∀ l, l ∈ t.links ↔ l ∈ u.links) : t = u := by
  rw [ht, hu, Table.ext_mem h]

theorem after_after_eq (c c' : LinkChange) (s : Store) :
    c'.after later (c.after now s) =
      { s with links := (c'.after later (c.after now s)).links } := by
  rw [after_eq later c', after_eq now c]

/-! ## Several calls -/

/-- Making a call again changes nothing, -/
theorem after_again (c : LinkChange) (s : Store) :
    c.after later (c.after now s) = c.after now s := by
  refine eq_of_links (after_after_eq now later c c s) (after_eq now c s) fun l => ?_
  cases c <;> simp only [mem_links_after, roles_after] <;> tauto

/-- and it says so. -/
theorem answer_again (c : LinkChange) (s : Store) :
    c.answer later (c.after now s) = (c.answer now s).map fun _ => false := by
  cases c with
  | assign l =>
    by_cases h : ∃ r ∈ s.roles, r.id = l.role
    · have hthere : ∃ r ∈ ((assign l).after now s).roles, r.id = l.role := by rwa [roles_after]
      have hmem : l ∈ ((assign l).after now s).links := (mem_links_after now).2 (.inr ⟨rfl, h⟩)
      rw [answer, answer, run_assign now h, run_assign later hthere,
        decide_eq_false (not_not.2 hmem)]
      rfl
    · rw [answer, answer, after, run_assign_of_missing now h, run_assign_of_missing later h]
      rfl
  | revoke l =>
    have hgone : l ∉ ((revoke l).after now s).links := fun h => ((mem_links_after now).1 h).2 rfl
    rw [answer, answer, run_revoke, run_revoke, decide_eq_false hgone]
    rfl

/-- Calls for different links lead to one store in either order, -/
theorem after_comm (h : c.link ≠ c'.link) :
    c'.after later (c.after now s) = c.after later (c'.after now s) := by
  refine eq_of_links (after_after_eq now later c c' s) (after_after_eq now later c' c s)
    fun l => ?_
  by_cases hl : l = c'.link
  · have hne : l ≠ c.link := hl ▸ h.symm
    rw [mem_links_after_of_ne later hne]
    exact mem_links_after_congr now later (roles_after now c s) (mem_links_after_of_ne now hne)
  · rw [mem_links_after_of_ne later hl]
    exact (mem_links_after_congr now later (roles_after now c' s)
      (mem_links_after_of_ne now hl)).symm

/-- and are answered alike. -/
theorem answer_comm (h : c.link ≠ c'.link) :
    c'.answer later (c.after now s) = c'.answer now s :=
  answer_congr now later (roles_after now c s) (mem_links_after_of_ne now h.symm)

/-! ## What is told -/

/-- Giving a role is answered with true exactly if the link is made by it, -/
theorem answer_assign_iff : (assign l).answer now s = .ok true ↔
    l ∉ s.links ∧ l ∈ ((assign l).after now s).links := by
  rw [mem_links_after]
  by_cases h : ∃ r ∈ s.roles, r.id = l.role
  · rw [answer, run_assign now h]
    simp [h]
  · rw [answer, run_assign_of_missing now h]
    simp [h]

/-- and taking it away exactly if the link is undone by it. -/
theorem answer_revoke_iff : (revoke l).answer now s = .ok true ↔
    l ∈ s.links ∧ l ∉ ((revoke l).after now s).links := by
  rw [mem_links_after, answer, run_revoke]
  simp

/-- Taking away a role that was newly given restores the store. -/
theorem after_revoke_after_assign (h : (assign l).answer now s = .ok true) :
    (revoke l).after later ((assign l).after now s) = s := by
  have hnew := ((answer_assign_iff now).1 h).1
  refine eq_of_links (after_after_eq now later _ _ s) rfl fun l' => ?_
  simp only [mem_links_after]
  by_cases hl : l' = l
  · subst hl
    simp [hnew]
  · simp [hl]

end LinkChange

/-- How calls about links work out in a store. -/
structure Store.LinksChanged (now later : Stamp) (s : Store) : Prop where
  /-- A user who is given a role that is there holds it, -/
  made : ∀ l, (∃ r ∈ s.roles, r.id = l.role) → l ∈ ((LinkChange.assign l).after now s).links
  /-- and the answer is true exactly if that is new. -/
  madeNew : ∀ l, (LinkChange.assign l).answer now s = .ok true ↔
    l ∉ s.links ∧ l ∈ ((LinkChange.assign l).after now s).links
  /-- A user from whom a role is taken does not hold it, -/
  undone : ∀ l, l ∉ ((LinkChange.revoke l).after now s).links
  /-- and the answer is true exactly if the user held it. -/
  undoneNew : ∀ l, (LinkChange.revoke l).answer now s = .ok true ↔
    l ∈ s.links ∧ l ∉ ((LinkChange.revoke l).after now s).links
  /-- All else stays as it is: the other links, -/
  others : ∀ (c : LinkChange) (l : Link), l ≠ c.link →
    (l ∈ (c.after now s).links ↔ l ∈ s.links)
  /-- and whatever is not a link. -/
  rest : ∀ c : LinkChange, c.after now s = { s with links := (c.after now s).links }
  /-- Doing the same again changes nothing, and is answered with false unless it fails. -/
  again : ∀ c : LinkChange, c.after later (c.after now s) = c.after now s ∧
    c.answer later (c.after now s) = (c.answer now s).map fun _ => false
  /-- Taking away a role that was newly given restores the store. -/
  restored : ∀ l, (LinkChange.assign l).answer now s = .ok true →
    (LinkChange.revoke l).after later ((LinkChange.assign l).after now s) = s
  /-- Calls for different links lead to one store in either order, with the same answers. -/
  commute : ∀ c c' : LinkChange, c.link ≠ c'.link →
    c'.after later (c.after now s) = c.after later (c'.after now s) ∧
    c'.answer later (c.after now s) = c'.answer now s

theorem Store.linksChanged (now later : Stamp) (s : Store) : s.LinksChanged now later where
  made _ h := (LinkChange.mem_links_after now).2 (.inr ⟨rfl, h⟩)
  madeNew _ := LinkChange.answer_assign_iff now
  undone _ h := ((LinkChange.mem_links_after now).1 h).2 rfl
  undoneNew _ := LinkChange.answer_revoke_iff now
  others _ _ := LinkChange.mem_links_after_of_ne now
  rest c := c.after_eq now s
  again c := ⟨c.after_again now later s, c.answer_again now later s⟩
  restored _ := LinkChange.after_revoke_after_assign now later
  commute _ _ h := ⟨LinkChange.after_comm now later h, LinkChange.answer_comm now later h⟩

/-- **In every store that arises the three views of who holds which role agree and are in order, and
the calls that change it tell what they do and do nothing else.** -/
theorem links_are_told_alike (now later : Stamp) {s : Store} (hs : s.Reachable) :
    s.LinksViewed now ∧ s.LinksChanged now later :=
  ⟨hs.coherent.linksViewed now, s.linksChanged now later⟩

/-- In the teams a user can be given a second role, and loses it again without a trace. -/
theorem links_are_told_alike_teams :
    teams.Reachable ∧ teams.LinksViewed newYear ∧
      (LinkChange.revoke ⟨⟨7⟩, ⟨1⟩⟩).after newYear
        ((LinkChange.assign ⟨⟨7⟩, ⟨1⟩⟩).after newYear teams) = teams := by
  have hteams : teams.Reachable := reachableInRange_teams.reachable
  have hnew : (LinkChange.assign ⟨⟨7⟩, ⟨1⟩⟩).answer newYear teams = .ok true := by
    refine (LinkChange.answer_assign_iff newYear).2 ?_
    decide +kernel
  obtain ⟨hviewed, hchanged⟩ := links_are_told_alike newYear newYear hteams
  exact ⟨hteams, hviewed, hchanged.restored _ hnew⟩

end Gatehouse
