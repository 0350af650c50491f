import Gatehouse.Proofs.Check.Fallback
import Gatehouse.Proofs.Grant.Purge

/-!
# Access after a clean-up

A clean-up picks the grants it removes by what they say, and a check picks the grants that count by
what is asked.  The two meet in one place: a grant that is removed counts for nothing but requests
on the very instance that is cleaned up (`Grant.Counts.isOn`), so no other decision changes
(`Store.decision_cleaned`).  On the instance itself nothing is stored any more, and a check falls
back on its item (`Store.decision_cleaned_instance`).
-/

set_option autoImplicit false

namespace Gatehouse

/-- The request is on one instance of an item, whatever the action. -/
structure Request.IsOn (q : Request) (area item : String) (itemId : Int32) : Prop where
  /-- It is on the section. -/
  area : q.area = area
  /-- It is on the item. -/
  item : q.item = some item
  /-- It is on the instance. -/
  itemId : q.itemId = some itemId

/-- The store without the grants on one instance of an item. -/
def Store.cleaned (s : Store) (area item : String) (itemId : Int32) : Store :=
  { s with grants := s.grants.filter fun g => !(Scope.single area item itemId).meets g.toTerms }

section Clean

variable {s : Store} {g : Grant} {subject : Subject} {q : Request} {area item action : String}
  {itemId : Int32}

/-! ## What is removed -/

theorem Scope.meets_single_iff {t : Terms} :
    (Scope.single area item itemId).meets t = true ↔
      t.area = area ∧ t.item = some item ∧ t.itemId = some itemId := by
  simp only [meets, single, Bool.and_eq_true, beq_iff_eq, and_assoc]
  rw [eq_comm (a := area)]

theorem Store.mem_cleaned :
    g ∈ (s.cleaned area item itemId).grants ↔
      g ∈ s.grants ∧ ¬(g.area = area ∧ g.item = some item ∧ g.itemId = some itemId) := by
  rw [cleaned, Table.mem_filter, Bool.not_eq_true', ← Bool.not_eq_true, Scope.meets_single_iff]

/-- A grant on an instance counts for requests on this instance only. -/
theorem Grant.Counts.isOn (h : g.Counts subject q)
    (hg : g.area = area ∧ g.item = some item ∧ g.itemId = some itemId) :
    q.IsOn area item itemId := by
  obtain ⟨harea, hitem, hid⟩ := hg
  have hasked : g.item = q.item := h.item.resolve_left (by rw [hitem]; exact Option.some_ne_none _)
  have haskedId : g.itemId = q.itemId :=
    h.itemId.resolve_left (by rw [hid]; exact Option.some_ne_none _)
  exact ⟨h.area.symm.trans harea, hasked.symm.trans hitem, haskedId.symm.trans hid⟩

/-! ## What is decided -/

/-- What is asked about anything else is decided as before. -/
theorem Store.decision_cleaned (hq : ¬q.IsOn area item itemId) :
    (s.cleaned area item itemId).decision subject q = s.decision subject q := by
  refine Store.decision_eq_of_grants fun g hcounts => ?_
  have hother : ¬(g.area = area ∧ g.item = some item ∧ g.itemId = some itemId) :=
    fun hon => hq (hcounts.isOn hon)
  rw [Store.mem_cleaned, and_iff_left hother]

/-- Nothing is stored for the instance any more. -/
theorem Store.storedFor_cleaned :
    (s.cleaned area item itemId).storedFor subject ⟨area, some item, some itemId, action⟩ = [] := by
  rw [List.eq_nil_iff_forall_not_mem]
  intro g hg
  obtain ⟨hmem, hcounts, hitem, hid⟩ := Store.mem_storedFor.1 hg
  exact (Store.mem_cleaned.1 hmem).2 ⟨hcounts.area, hitem, hid⟩

theorem Store.Coherent.cleaned (hs : s.Coherent) : (s.cleaned area item itemId).Coherent :=
  hs.effect (.grantsRemoved _)

/-- A request on the instance is decided like one on the item as a whole. -/
theorem Store.decision_cleaned_instance (hs : s.Coherent) :
    (s.cleaned area item itemId).decision subject ⟨area, some item, some itemId, action⟩ =
      (s.cleaned area item itemId).decision subject ⟨area, some item, none, action⟩ := by
  rw [Store.decision_instance hs.cleaned, Store.answerAt, Store.storedFor_cleaned]
  exact if_pos rfl

/-- A request on no instance is not decided by a grant on one. -/
theorem Store.reason_of_wide (hq : q.itemId = none) :
    (s.decision subject q).reason = .noMatch ∨
      ∃ tier : Tier, (tier = .item ∨ tier = .whole) ∧
        ((s.decision subject q).reason = .allowed tier ∨
          (s.decision subject q).reason = .denied tier) := by
  have hwide : ∀ t, s.counting subject q t → t.tier = .item ∨ t.tier = .whole := by
    rintro t ⟨g, -, hcounts, rfl⟩
    have hid : g.itemId = none := hcounts.itemId.elim id fun h => h.trans hq
    rw [Terms.tier, hid]
    cases g.item with
    | none => exact .inr rfl
    | some item => exact .inl rfl
  have htop : ∀ tier : Tier, tier.IsTop (s.counting subject q) → tier = .item ∨ tier = .whole := by
    intro tier h
    obtain ⟨t, ht, rfl⟩ := h.attained
    exact hwide t ht
  have hfollows := s.follows_decision subject q
  generalize s.decision subject q = d at hfollows ⊢
  cases hfollows with
  | noMatch => exact .inl rfl
  | @denied tier top => exact .inr ⟨tier, htop tier top, .inr rfl⟩
  | @allowed tier top => exact .inr ⟨tier, htop tier top, .inl rfl⟩

end Clean

/-- **A clean-up changes the access to what is cleaned up and to nothing else.**  Afterwards whoever
asks about anything else gets the same decision as before.  A request on the instance itself is
decided like the one that leaves the instance out, by a grant on the item or on the section unless
nothing matches. -/
theorem check_after_purge (now later : Stamp) {s : Store} (hs : s.Reachable) (area item : String)
    (itemId : Int32) :
    ∃ report t,
      ((Backend.memory now).purge area item itemId false).run s = (.ok report, t) ∧
      ∀ subject : Subject,
        (∀ q : Request, ¬q.IsOn area item itemId →
          ∃ d, ((Backend.memory later).check subject q).run t = (.ok d, t) ∧
            ((Backend.memory later).check subject q).run s = (.ok d, s)) ∧
        ∀ action : String, ∃ d,
          ((Backend.memory later).check subject ⟨area, some item, some itemId, action⟩).run t =
            (.ok d, t) ∧
          ((Backend.memory later).check subject ⟨area, some item, none, action⟩).run t =
            (.ok d, t) ∧
          (d.reason = .noMatch ∨ ∃ tier : Tier, (tier = .item ∨ tier = .whole) ∧
            (d.reason = .allowed tier ∨ d.reason = .denied tier)) := by
  refine ⟨_, s.cleaned area item itemId, run_purge_memory now s area item itemId, fun subject => ?_⟩
  simp only [run_check_memory]
  constructor
  · intro q hq
    exact ⟨s.decision subject q, by rw [Store.decision_cleaned hq], rfl⟩
  · intro action
    exact ⟨_, by rw [Store.decision_cleaned_instance hs.coherent], rfl, Store.reason_of_wide rfl⟩

/-- The question whether one may see a draft. -/
def seeDraft (itemId : Option Int32) : Request := ⟨"news", some "draft", itemId, "see"⟩

/-- A guest who is a writer may see the fourth draft.  Once it is cleaned up the writers' denial of
all drafts applies to it as well, as it does to any other one. -/
theorem check_after_purge_draft :
    ((Backend.memory newYear).check ⟨[⟨1⟩, ⟨3⟩], none⟩ (seeDraft (some 4))).run teams =
      (.ok ⟨true, .allowed .single⟩, teams) ∧
    ∃ report t,
      ((Backend.memory newYear).purge "news" "draft" 4 false).run teams = (.ok report, t) ∧
      ((Backend.memory newYear).check ⟨[⟨1⟩, ⟨3⟩], none⟩ (seeDraft (some 4))).run t =
        (.ok ⟨false, .denied .item⟩, t) ∧
      ((Backend.memory newYear).check ⟨[⟨1⟩, ⟨3⟩], none⟩ (seeDraft (some 5))).run t =
        (.ok ⟨false, .denied .item⟩, t) := by
  have hteams : teams.Reachable := reachableInRange_teams.reachable
  obtain ⟨report, t, hpurge, hchecks⟩ := check_after_purge newYear newYear hteams "news" "draft" 4
  obtain ⟨hother, hsame⟩ := hchecks ⟨[⟨1⟩, ⟨3⟩], none⟩
  refine ⟨by rfl, report, t, hpurge, ?_, ?_⟩
  · -- The decision is the one on drafts in general, which is the same as before.
    obtain ⟨d, hinstance, hitem, -⟩ := hsame "see"
    obtain ⟨d', hafter, hbefore⟩ := hother (seeDraft none) (fun h => by cases h.itemId)
    have hold : ((Backend.memory newYear).check ⟨[⟨1⟩, ⟨3⟩], none⟩ (seeDraft none)).run teams =
        (.ok ⟨false, .denied .item⟩, teams) := by rfl
    rw [hold] at hbefore
    cases hbefore
    rw [seeDraft, hitem] at hafter
    cases hafter
    exact hinstance
  · obtain ⟨d, hafter, hbefore⟩ := hother (seeDraft (some 5)) fun h => by
      have hfive : (5 : Int32) = 4 := Option.some.inj h.itemId
      exact absurd hfive (by decide)
    have hold : ((Backend.memory newYear).check ⟨[⟨1⟩, ⟨3⟩], none⟩ (seeDraft (some 5))).run teams =
        (.ok ⟨false, .denied .item⟩, teams) := by rfl
    rw [hold] at hbefore
    cases hbefore
    exact hafter

end Gatehouse
