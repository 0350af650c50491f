import Gatehouse.Proofs.Check
import Gatehouse.Proofs.Store.Reachable

/-!
# Asking for less

A decision is found by looking at all grants that count at once.  It can also be found by asking for
less and less: what is stored for exactly the instance decides; where nothing is, what is stored for
the item as a whole; where nothing is either, what is stored for the section; and where nothing at
all is stored, the answer is no.  `Store.answerAt` is one step of this look-up, and
`check_falls_back` says that checking does the same.

That the two agree rests on one invariant of the store, that a grant on an instance names an item.
A grant on an instance without an item would count for the instance, be as wide as the section, and
be found by none of the steps.
-/

set_option autoImplicit false

namespace Gatehouse

/-! ## The look-up -/

/-- How far a request is narrowed. -/
def Request.tier (q : Request) : Tier := Tier.of q.item q.itemId

namespace Store

/-- The grants of the subject that are in force and stored for exactly what is asked. -/
def storedFor (s : Store) (subject : Subject) (q : Request) : List Grant :=
  s.grants.rows.filter fun g =>
    g.active && g.heldBy subject && g.area == q.area && g.action == q.action &&
      g.item == q.item && g.itemId == q.itemId

/-- The answer of what is stored for exactly a request, of which one denial is enough; where nothing
is stored, it is the answer to asking for less. -/
def answerAt (s : Store) (subject : Subject) (q : Request) (less : Decision) : Decision :=
  if (s.storedFor subject q).isEmpty then less
  else if (s.storedFor subject q).any (·.rule == .deny) then ⟨false, .denied q.tier⟩
  else ⟨true, .allowed q.tier⟩

theorem mem_storedFor {s : Store} {subject : Subject} {q : Request} {g : Grant} :
    g ∈ s.storedFor subject q ↔
      g ∈ s.grants ∧ g.Counts subject q ∧ g.item = q.item ∧ g.itemId = q.itemId := by
  rw [storedFor, List.mem_filter, ← Table.mem_def]
  simp only [Bool.and_eq_true, beq_iff_eq, Grant.heldBy, Owner.isOf_iff]
  refine and_congr_right fun _ => ⟨?_, ?_⟩
  · rintro ⟨⟨⟨⟨⟨hactive, howner⟩, harea⟩, haction⟩, hitem⟩, hid⟩
    exact ⟨⟨hactive, harea, haction, howner, .inr hitem, .inr hid⟩, hitem, hid⟩
  · rintro ⟨hcounts, hitem, hid⟩
    exact ⟨⟨⟨⟨⟨hcounts.active, hcounts.owner⟩, hcounts.area⟩, hcounts.action⟩, hitem⟩, hid⟩

/-- What is stored for a request is narrowed as far as the request. -/
theorem tier_of_mem_storedFor {s : Store} {subject : Subject} {q : Request} {g : Grant}
    (h : g ∈ s.storedFor subject q) : g.tier = q.tier := by
  obtain ⟨-, -, hitem, hid⟩ := mem_storedFor.1 h
  rw [Terms.tier, hitem, hid, Request.tier]

/-! ## One step of it -/

/-- If what counts for a request is either stored for it or is wider and counts for what is asked
instead, then one step of the look-up leads to the decision. -/
theorem decision_eq_answerAt {s : Store} {subject : Subject} {q : Request} {less : Decision}
    {wider : Terms → Prop} (hless : Decision.Follows wider less)
    (hcounting : ∀ t, s.counting subject q t ↔
      (∃ g ∈ s.storedFor subject q, g.toTerms = t) ∨ wider t)
    (hwider : ∀ t, wider t → t.tier.rank < q.tier.rank) :
    s.decision subject q = s.answerAt subject q less := by
  rw [decision_eq_iff, answerAt]
  cases hempty : (s.storedFor subject q).isEmpty with
  | true =>
    rw [if_pos rfl]
    refine hless.congr fun t => ?_
    rw [hcounting, List.isEmpty_iff.1 hempty]
    simp
  | false =>
    rw [if_neg Bool.false_ne_true]
    -- Something is stored for the request, and nothing that counts is narrower.
    have htop : q.tier.IsTop (s.counting subject q) := by
      obtain ⟨g, hg⟩ := List.exists_mem_of_ne_nil _ (List.isEmpty_eq_false_iff.1 hempty)
      refine ⟨⟨g.toTerms, (hcounting _).2 (.inl ⟨g, hg, rfl⟩), tier_of_mem_storedFor hg⟩, ?_⟩
      intro t ht
      rcases (hcounting t).1 ht with ⟨g', hg', rfl⟩ | ht
      · exact Nat.le_of_eq (congrArg Tier.rank (tier_of_mem_storedFor hg'))
      · exact Nat.le_of_lt (hwider t ht)
    cases hdeny : (s.storedFor subject q).any (·.rule == .deny) with
    | true =>
      rw [if_pos rfl]
      obtain ⟨g, hg, hrule⟩ := List.any_eq_true.1 hdeny
      exact .denied htop ⟨g.toTerms, (hcounting _).2 (.inl ⟨g, hg, rfl⟩),
        tier_of_mem_storedFor hg, eq_of_beq hrule⟩
    | false =>
      rw [if_neg Bool.false_ne_true]
      refine .allowed htop fun t ht htier hrule => ?_
      rcases (hcounting t).1 ht with ⟨g, hg, rfl⟩ | ht
      · exact List.any_eq_false.1 hdeny g hg (beq_iff_eq.2 hrule)
      · exact absurd (congrArg Tier.rank htier) (Nat.ne_of_lt (hwider t ht))

end Store

/-! ## What counts when less is asked -/

section Less

variable {g : Grant} {subject : Subject} {area action item : String} {n : Int32}

/-- What counts for an instance is stored for it or counts for the item as a whole. -/
theorem Grant.counts_instance_iff (hg : g.itemId.isSome = true → g.item.isSome = true) :
    g.Counts subject ⟨area, some item, some n, action⟩ ↔
      g.Counts subject ⟨area, some item, some n, action⟩ ∧ g.item = some item ∧ g.itemId = some n ∨
        g.Counts subject ⟨area, some item, none, action⟩ := by
  constructor
  · intro h
    rcases h.itemId with hid | hid
    · exact .inr ⟨h.active, h.area, h.action, h.owner, h.item, .inl hid⟩
    · refine .inl ⟨h, h.item.resolve_left fun hnone => ?_, hid⟩
      have hsome := hg (by rw [hid]; rfl)
      rw [hnone] at hsome
      cases hsome
  · rintro (⟨h, -, -⟩ | h)
    · exact h
    · exact ⟨h.active, h.area, h.action, h.owner, h.item, .inl (or_self_iff.1 h.itemId)⟩

/-- What counts for an item as a whole is stored for it or counts for the section. -/
theorem Grant.counts_item_iff :
    g.Counts subject ⟨area, some item, none, action⟩ ↔
      g.Counts subject ⟨area, some item, none, action⟩ ∧ g.item = some item ∧ g.itemId = none ∨
        g.Counts subject ⟨area, none, none, action⟩ := by
  constructor
  · intro h
    have hid : g.itemId = none := or_self_iff.1 h.itemId
    rcases h.item with hitem | hitem
    · exact .inr ⟨h.active, h.area, h.action, h.owner, .inl hitem, .inl hid⟩
    · exact .inl ⟨h, hitem, hid⟩
  · rintro (⟨h, -, -⟩ | h)
    · exact h
    · exact ⟨h.active, h.area, h.action, h.owner, .inl (or_self_iff.1 h.item), h.itemId⟩

/-- An instance without an item asks for nothing less than the section. -/
theorem Grant.counts_unnamed_iff (hg : g.itemId.isSome = true → g.item.isSome = true) :
    g.Counts subject ⟨area, none, some n, action⟩ ↔
      g.Counts subject ⟨area, none, none, action⟩ := by
  constructor
  · intro h
    have hitem : g.item = none := or_self_iff.1 h.item
    refine ⟨h.active, h.area, h.action, h.owner, .inl hitem, .inl ?_⟩
    cases hid : g.itemId with
    | none => rfl
    | some m =>
      have hsome := hg (by rw [hid]; rfl)
      rw [hitem] at hsome
      cases hsome
  · intro h
    exact ⟨h.active, h.area, h.action, h.owner, h.item, .inl (or_self_iff.1 h.itemId)⟩

end Less

namespace Store

variable {s : Store} {subject : Subject} {area action item : String} {n : Int32}

/-- What counts for a request is counted grant by grant. -/
theorem counting_iff_of_counts {q q' : Request}
    (h : ∀ g ∈ s.grants, g.Counts subject q ↔
      g.Counts subject q ∧ g.item = q.item ∧ g.itemId = q.itemId ∨ g.Counts subject q')
    (t : Terms) :
    s.counting subject q t ↔
      (∃ g ∈ s.storedFor subject q, g.toTerms = t) ∨ s.counting subject q' t := by
  constructor
  · rintro ⟨g, hg, hcounts, rfl⟩
    rcases (h g hg).1 hcounts with hstored | hcounts'
    · exact .inl ⟨g, mem_storedFor.2 ⟨hg, hstored⟩, rfl⟩
    · exact .inr ⟨g, hg, hcounts', rfl⟩
  · rintro (⟨g, hstored, rfl⟩ | ⟨g, hg, hcounts', rfl⟩)
    · obtain ⟨hg, hcounts, -⟩ := mem_storedFor.1 hstored
      exact ⟨g, hg, hcounts, rfl⟩
    · exact ⟨g, hg, (h g hg).2 (.inr hcounts'), rfl⟩

/-- The decision on an instance. -/
theorem decision_instance (hs : s.Coherent) :
    s.decision subject ⟨area, some item, some n, action⟩ =
      s.answerAt subject ⟨area, some item, some n, action⟩
        (s.decision subject ⟨area, some item, none, action⟩) := by
  refine decision_eq_answerAt (s.follows_decision _ _)
    (counting_iff_of_counts fun g hg => Grant.counts_instance_iff (hs.narrowed g hg)) ?_
  rintro t ⟨g, -, hcounts, rfl⟩
  rw [Terms.tier, or_self_iff.1 hcounts.itemId]
  cases g.item <;> simp [Request.tier, Tier.of, Tier.rank]

/-- The decision on an item as a whole. -/
theorem decision_item :
    s.decision subject ⟨area, some item, none, action⟩ =
      s.answerAt subject ⟨area, some item, none, action⟩
        (s.decision subject ⟨area, none, none, action⟩) := by
  refine decision_eq_answerAt (s.follows_decision _ _)
    (counting_iff_of_counts fun g _ => Grant.counts_item_iff) ?_
  rintro t ⟨g, -, hcounts, rfl⟩
  rw [Terms.tier, or_self_iff.1 hcounts.item]
  simp [Request.tier, Tier.of, Tier.rank]

/-- The decision on a section. -/
theorem decision_section :
    s.decision subject ⟨area, none, none, action⟩ =
      s.answerAt subject ⟨area, none, none, action⟩ ⟨false, .noMatch⟩ := by
  have hnothing : Decision.Follows (fun _ => False) ⟨false, .noMatch⟩ := .noMatch fun _ => not_false
  refine decision_eq_answerAt hnothing (fun t => ?_) fun _ => False.elim
  rw [or_false]
  constructor
  · rintro ⟨g, hg, hcounts, rfl⟩
    exact ⟨g, mem_storedFor.2 ⟨hg, hcounts, or_self_iff.1 hcounts.item,
      or_self_iff.1 hcounts.itemId⟩, rfl⟩
  · rintro ⟨g, hstored, rfl⟩
    obtain ⟨hg, hcounts, -⟩ := mem_storedFor.1 hstored
    exact ⟨g, hg, hcounts, rfl⟩

/-- The decision on an instance without an item. -/
theorem decision_unnamed (hs : s.Coherent) :
    s.decision subject ⟨area, none, some n, action⟩ =
      s.decision subject ⟨area, none, none, action⟩ := by
  refine decision_congr fun t => exists_congr fun g => and_congr_right fun hg => ?_
  rw [Grant.counts_unnamed_iff (hs.narrowed g hg)]

end Store

/-- **Checking is a look-up that falls back on asking for less.**  The decision on an instance is
the answer of what is stored for it, or else the decision on its item; that one is the answer of
what is stored for the item as a whole, or else the decision on the section; and that one is the
answer of what is stored for the section, or else no.  An instance without an item is the
section. -/
theorem check_falls_back (now : Stamp) {s : Store} (hs : s.Reachable) (subject : Subject)
    (area action item : String) (n : Int32) :
    ∃ onInstance onItem onSection : Decision,
      ((Backend.memory now).check subject ⟨area, some item, some n, action⟩).run s =
        (.ok onInstance, s) ∧
      ((Backend.memory now).check subject ⟨area, some item, none, action⟩).run s =
        (.ok onItem, s) ∧
      ((Backend.memory now).check subject ⟨area, none, none, action⟩).run s =
        (.ok onSection, s) ∧
      ((Backend.memory now).check subject ⟨area, none, some n, action⟩).run s =
        (.ok onSection, s) ∧
      onInstance = s.answerAt subject ⟨area, some item, some n, action⟩ onItem ∧
      onItem = s.answerAt subject ⟨area, some item, none, action⟩ onSection ∧
      onSection = s.answerAt subject ⟨area, none, none, action⟩ ⟨false, .noMatch⟩ := by
  have hcoh : s.Coherent := hs.coherent
  simp only [run_check_memory]
  refine ⟨_, _, _, rfl, rfl, rfl, ?_, Store.decision_instance hcoh, Store.decision_item,
    Store.decision_section⟩
  rw [Store.decision_unnamed hcoh]

/-- A writer who is a guest may see the news and the fourth draft, but no other one: each of the
three answers is the one of what is stored there. -/
theorem check_falls_back_draft :
    teams.Reachable ∧
      ((Backend.memory newYear).check ⟨[⟨1⟩, ⟨3⟩], none⟩ ⟨"news", some "draft", some 4, "see"⟩).run
        teams = (.ok ⟨true, .allowed .single⟩, teams) ∧
      ((Backend.memory newYear).check ⟨[⟨1⟩, ⟨3⟩], none⟩ ⟨"news", some "draft", none, "see"⟩).run
        teams = (.ok ⟨false, .denied .item⟩, teams) ∧
      ((Backend.memory newYear).check ⟨[⟨1⟩, ⟨3⟩], none⟩ ⟨"news", none, some 4, "see"⟩).run
        teams = (.ok ⟨true, .allowed .whole⟩, teams) := by
  have hteams : teams.Reachable := reachableInRange_teams.reachable
  obtain ⟨onInstance, onItem, onSection, hinstance, hitem, -, hunnamed, heqInstance, heqItem,
    heqSection⟩ := check_falls_back newYear hteams ⟨[⟨1⟩, ⟨3⟩], none⟩ "news" "see" "draft" 4
  have hdenied : ∀ less, teams.answerAt ⟨[⟨1⟩, ⟨3⟩], none⟩ ⟨"news", some "draft", none, "see"⟩
      less = ⟨false, .denied .item⟩ := fun less => rfl
  have hallowed : ∀ less, teams.answerAt ⟨[⟨1⟩, ⟨3⟩], none⟩ ⟨"news", some "draft", some 4, "see"⟩
      less = ⟨true, .allowed .single⟩ := fun less => rfl
  have hwhole : ∀ less, teams.answerAt ⟨[⟨1⟩, ⟨3⟩], none⟩ ⟨"news", none, none, "see"⟩ less =
      ⟨true, .allowed .whole⟩ := fun less => rfl
  rw [heqInstance, hallowed] at hinstance
  rw [heqItem, hdenied] at hitem
  rw [heqSection, hwhole] at hunnamed
  exact ⟨hteams, hinstance, hitem, hunnamed⟩

end Gatehouse
