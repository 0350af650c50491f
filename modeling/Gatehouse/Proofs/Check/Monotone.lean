import Gatehouse.Proofs.Check
import Gatehouse.Proofs.Store.Activity

/-!
# Changes of grants that work one way

A grant that allows can be narrowed more than a denial and so outweigh it, and taking a denial away
can let a wider tier decide.  Still both only ever work in favour of who asks: giving grants that
allow and taking grants that deny turns no yes into a no, and the other way round no no into a yes.

All that matters of a change is which grants in force it adds and takes away (`Store.Gains`).  That
a yes stays a yes is then a fact about decisions (`Decision.Follows.allowed_of_gains`), and that a
no stays a no is the same fact read backwards (`Store.Gains.back`).
-/

set_option autoImplicit false

namespace Gatehouse

/-! ## What a change adds and takes away -/

/-- Of the grants in force with the rule none is taken away, and of those without it none is
added. -/
structure Store.Gains (rule : Rule) (s t : Store) : Prop where
  /-- Grants with the rule stay in force. -/
  kept : ∀ g ∈ s.grants, g.active = true → g.rule = rule → g ∈ t.grants
  /-- Grants without it were in force before. -/
  old : ∀ g ∈ t.grants, g.active = true → g.rule ≠ rule → g ∈ s.grants

namespace Store.Gains

variable {rule : Rule} {s t u : Store}

theorem refl (s : Store) : s.Gains rule s := ⟨fun _ hg _ _ => hg, fun _ hg _ _ => hg⟩

theorem trans (h : s.Gains rule t) (h' : t.Gains rule u) : s.Gains rule u where
  kept g hg hactive hrule := h'.kept g (h.kept g hg hactive hrule) hactive hrule
  old g hg hactive hrule := h.old g (h'.old g hg hactive hrule) hactive hrule

/-- To gain denials is to lose what allows. -/
theorem back (h : s.Gains .deny t) : t.Gains .allow s where
  kept g hg hactive hrule := h.old g hg hactive (by rw [hrule]; decide)
  old g hg hactive hrule := by
    cases hdeny : g.rule with
    | allow => exact absurd hdeny hrule
    | deny => exact h.kept g hg hactive hdeny

theorem of_eq (h : t.grants = s.grants) : s.Gains rule t :=
  ⟨fun _ hg _ _ => h ▸ hg, fun _ hg _ _ => h ▸ hg⟩

/-- Removing grants without the rule. -/
theorem of_filter {p : Grant → Bool} (hp : ∀ g ∈ s.grants, g.rule = rule → p g = true) :
    s.Gains rule { s with grants := s.grants.filter p } where
  kept g hg _ hrule := Table.mem_filter.2 ⟨hg, hp g hg hrule⟩
  old _ hg _ _ := (Table.mem_filter.1 hg).1

/-- Writing a grant that is not in force or has the rule.  If it takes the place of another one that
is in force and has the rule, then this is the same grant. -/
theorem of_insert {grant : Grant} (n : Int32) (hgrant : grant.active = true → grant.rule = rule)
    (hs : ∀ g ∈ s.grants, g.id = grant.id → g.active = true → g.rule = rule → g = grant) :
    s.Gains rule { s with grants := s.grants.insert grant, lastGrant := n } where
  kept g hg hactive hrule := by
    by_cases hid : g.id = grant.id
    · exact mem_grants_insert.2 (.inl (hs g hg hid hactive hrule))
    · exact mem_grants_insert.2 (.inr ⟨hg, hid⟩)
  old g hg hactive hrule := by
    rcases mem_grants_insert.1 hg with rfl | ⟨hold, -⟩
    · exact absurd (hgrant hactive) hrule
    · exact hold

end Store.Gains

/-! ## What becomes of decisions -/

/-- Where terms that allow are gained, a yes stays a yes.  What allowed before still counts, so
something matches; and a denial in a tier that is at least as narrow would have counted before. -/
theorem Decision.Follows.allowed_of_gains {C D : Terms → Prop} {d e : Decision} (hd : Follows C d)
    (he : Follows D e) (hkept : ∀ t, C t → t.rule = .allow → D t)
    (hold : ∀ t, D t → t.rule = .deny → C t) (h : d.allowed = true) : e.allowed = true := by
  cases hd with
  | noMatch none => cases h
  | denied top denies => cases h
  | @allowed tier top allows =>
    obtain ⟨x, hx, hxtier⟩ := top.attained
    have hallow : x.rule = .allow := by
      cases hrule : x.rule with
      | allow => rfl
      | deny => exact absurd hrule (allows x hx hxtier)
    have hxD : D x := hkept x hx hallow
    cases he with
    | noMatch none => exact absurd hxD (none x)
    | allowed top' allows' => rfl
    | @denied tier' top' denies =>
      obtain ⟨y, hy, hytier, hdeny⟩ := denies
      have hyC : C y := hold y hy hdeny
      have hle : y.tier.rank ≤ tier.rank := top.le y hyC
      have hge : tier.rank ≤ y.tier.rank := hxtier ▸ hytier ▸ top'.le x hxD
      have hsame : y.tier = tier := Tier.rank_injective (Nat.le_antisymm hle hge)
      exact absurd hdeny (allows y hyC hsame)

theorem Store.Gains.allowed {s t : Store} (h : s.Gains .allow t) {subject : Subject} {q : Request}
    (hs : (s.decision subject q).allowed = true) : (t.decision subject q).allowed = true := by
  refine (s.follows_decision subject q).allowed_of_gains (t.follows_decision subject q) ?_ ?_ hs
  · rintro _ ⟨g, hg, hcounts, rfl⟩ hrule
    exact ⟨g, h.kept g hg hcounts.active hrule, hcounts, rfl⟩
  · rintro _ ⟨g, hg, hcounts, rfl⟩ hrule
    exact ⟨g, h.old g hg hcounts.active (by rw [hrule]; decide), hcounts, rfl⟩

theorem Store.Gains.refused {s t : Store} (h : s.Gains .deny t) {subject : Subject} {q : Request}
    (hs : (s.decision subject q).allowed = false) : (t.decision subject q).allowed = false := by
  rw [← Bool.not_eq_true] at hs ⊢
  exact fun ht => hs (h.back.allowed ht)

/-! ## Calls -/

/-- The call gives no grant but with the rule, and takes none but without it. -/
def Operation.Favours (rule : Rule) (s : Store) : Operation → Prop
  | .createGrant d => d.rule = rule
  | .deleteGrant id | .setActive id false => ∀ g ∈ s.grants, g.id = id → g.rule ≠ rule
  | .setActive id true => ∀ g ∈ s.grants, g.id = id → g.rule = rule
  | .clearRole id => ∀ g ∈ s.grants, g.owner = .role id → g.rule ≠ rule
  | .deleteAlike id area item action => ∀ g ∈ s.grants,
      g.owner = .role id → g.area = area → g.item = item → g.action = action → g.rule ≠ rule
  | .createRole _ | .changeRole _ _ | .assign _ _ | .revoke _ _ => True

instance Operation.decidableFavours (rule : Rule) (s : Store) :
    ∀ op : Operation, Decidable (op.Favours rule s)
  | .createGrant d => inferInstanceAs (Decidable (d.rule = rule))
  | .deleteGrant id | .setActive id false =>
    inferInstanceAs (Decidable (∀ g ∈ s.grants.rows, g.id = id → g.rule ≠ rule))
  | .setActive id true =>
    inferInstanceAs (Decidable (∀ g ∈ s.grants.rows, g.id = id → g.rule = rule))
  | .clearRole id =>
    inferInstanceAs (Decidable (∀ g ∈ s.grants.rows, g.owner = .role id → g.rule ≠ rule))
  | .deleteAlike id area item action => inferInstanceAs (Decidable (∀ g ∈ s.grants.rows,
      g.owner = .role id → g.area = area → g.item = item → g.action = action → g.rule ≠ rule))
  | .createRole _ | .changeRole _ _ | .assign _ _ | .revoke _ _ => .isTrue trivial

section Calls

variable {rule : Rule} {s : Store}

open Operation in
/-- After a call that favours a rule, grants with this rule are gained. -/
theorem Operation.gains {op : Operation} {now : Stamp} (hs : s.Counted) (h : op.Favours rule s)
    (hk : s.KeepsCounting (op.after (.memory now) s)) :
    s.Gains rule (op.after (.memory now) s) := by
  cases op with
  | createRole | changeRole | assign | revoke => exact .of_eq (LeavesGrants.grants_after trivial)
  | createGrant d =>
    rcases after_createGrant d with hnone | hadded
    · rw [hnone]
      exact .refl s
    · rw [hadded] at hk ⊢
      exact .of_insert _ (fun _ => h) fun g hg hid _ _ =>
        absurd hid (hs.grant_ne_next hk.grant g hg)
  | deleteGrant id =>
    refine .of_filter fun g hg hrule => bne_iff_ne.2 fun hid => ?_
    exact h g hg hid hrule
  | setActive id active =>
    rcases after_setActive id active with hnone | ⟨old, hold, hid, hset⟩
    · rw [hnone]
      exact .refl s
    · rw [hset]
      cases active with
      | false =>
        refine .of_insert s.lastGrant (fun hactive => nomatch hactive) fun g hg hgid _ hrule => ?_
        exact absurd hrule (h g hg (hgid.trans hid))
      | true =>
        refine .of_insert s.lastGrant (fun _ => h old hold hid) fun g hg hgid hactive _ => ?_
        -- A grant that is in force already is written again as it is.
        obtain rfl : g = old := Table.eq_of_mem hg hold (Store.byId_grant_eq_iff.2 hgid)
        rw [Grant.inForce, ← hactive]
  | clearRole id =>
    refine .of_filter fun g hg hrule => ?_
    rw [Bool.not_eq_true', ← Bool.not_eq_true, Store.owner_role?_beq_iff]
    exact fun howner => h g hg howner hrule
  | deleteAlike id area item action =>
    refine .of_filter fun g hg hrule => ?_
    rw [Bool.not_eq_true', ← Bool.not_eq_true]
    simp only [Bool.and_eq_true]
    rintro ⟨⟨⟨howner, harea⟩, hitem⟩, haction⟩
    exact h g hg (Store.owner_role?_beq_iff.1 howner) (beq_iff_eq.1 harea) (beq_iff_eq.1 hitem)
      (beq_iff_eq.1 haction) hrule

/-- After calls that all favour a rule, grants with this rule are gained. -/
theorem Store.gains_replay {calls : List (Stamp × Operation)} (hs : s.ReachableInRange)
    (h : Along (fun u now op => op.Orderly u now ∧ op.Favours rule u) s calls) :
    s.Gains rule (s.replay calls) := by
  refine (h.invariant (I := fun u => u.ReachableInRange ∧ s.Gains rule u) ?_ ⟨hs, .refl s⟩).2
  rintro u now op ⟨⟨hproper, hk⟩, hfavours⟩ ⟨hu, hgains⟩
  exact ⟨hu.call now hproper hk, hgains.trans (op.gains hu.counted hfavours hk)⟩

end Calls

/-- **Giving what allows and taking what denies refuses nobody, and the other way round admits
nobody.**  After calls that create or put in force only grants that allow, and remove or put out of
force only grants that deny, what was allowed is still allowed, for everybody and on every request.
After calls that do the opposite, what was refused is still refused, for a denial or because nothing
matched. -/
theorem check_is_monotone (earlier later : Stamp) {s : Store} (hs : s.ReachableInRange)
    (calls : List (Stamp × Operation)) (subject : Subject) (q : Request) :
    ∃ before after,
      ((Backend.memory earlier).check subject q).run s = (.ok before, s) ∧
      ((Backend.memory later).check subject q).run (s.replay calls) =
        (.ok after, s.replay calls) ∧
      (Along (fun u now op => op.Orderly u now ∧ op.Favours .allow u) s calls →
        before.allowed = true → after.allowed = true) ∧
      (Along (fun u now op => op.Orderly u now ∧ op.Favours .deny u) s calls →
        before.allowed = false → after.allowed = false) := by
  refine ⟨_, _, run_check_memory earlier s subject q, run_check_memory later _ subject q, ?_, ?_⟩
  · intro h
    exact (Store.gains_replay hs h).allowed
  · intro h
    exact (Store.gains_replay hs h).refused

/-- Calls in favour of reading the news: the writers may see each draft, and are not denied to see
them all any more. -/
def openingCalls : List (Stamp × Operation) :=
  [(newYear, .createGrant ((Draft.new (.role ⟨1⟩) "news" "see").onItem "draft")),
    (newYear, .setActive ⟨2⟩ false), (newYear, .deleteGrant ⟨3⟩)]

/-- Calls against it: the writers are denied to see the ninth draft, and what lets them see the news
is removed. -/
def closingCalls : List (Stamp × Operation) :=
  [(newYear, .createGrant ((Draft.new (.role ⟨1⟩) "news" "see").onInstance "draft" 9).deny),
    (newYear, .deleteGrant ⟨1⟩), (newYear, .setActive ⟨5⟩ false)]

/-- Writers who see the news still do after the first calls, and those who do not see drafts still
do not after the second ones. -/
theorem check_is_monotone_drafts :
    (∃ after, ((Backend.memory newYear).check ⟨[⟨1⟩], none⟩ ⟨"news", none, none, "see"⟩).run
        (teams.replay openingCalls) = (.ok after, teams.replay openingCalls) ∧
      after.allowed = true) ∧
    ∃ after, ((Backend.memory newYear).check ⟨[⟨1⟩], none⟩ ⟨"news", some "draft", none, "see"⟩).run
        (teams.replay closingCalls) = (.ok after, teams.replay closingCalls) ∧
      after.allowed = false := by
  constructor
  · obtain ⟨before, after, hbefore, hafter, hallowed, -⟩ := check_is_monotone newYear newYear
      reachableInRange_teams openingCalls ⟨[⟨1⟩], none⟩ ⟨"news", none, none, "see"⟩
    have hold : ((Backend.memory newYear).check ⟨[⟨1⟩], none⟩ ⟨"news", none, none, "see"⟩).run
        teams = (.ok ⟨true, .allowed .whole⟩, teams) := by rfl
    rw [hold] at hbefore
    cases hbefore
    refine ⟨after, hafter, hallowed ⟨⟨⟨(Draft.Made.new _ _ _).onItem _, ?_⟩, rfl⟩,
      ⟨⟨trivial, ?_⟩, ?_⟩, ⟨⟨trivial, ?_⟩, ?_⟩, trivial⟩ rfl⟩
    all_goals decide +kernel
  · obtain ⟨before, after, hbefore, hafter, -, hrefused⟩ := check_is_monotone newYear newYear
      reachableInRange_teams closingCalls ⟨[⟨1⟩], none⟩ ⟨"news", some "draft", none, "see"⟩
    have hold : ((Backend.memory newYear).check ⟨[⟨1⟩], none⟩
        ⟨"news", some "draft", none, "see"⟩).run teams = (.ok ⟨false, .denied .item⟩, teams) := by
      rfl
    rw [hold] at hbefore
    cases hbefore
    refine ⟨after, hafter, hrefused
      ⟨⟨⟨((Draft.Made.new _ _ _).onInstance _ _).withRule _, ?_⟩, rfl⟩, ⟨⟨trivial, ?_⟩, ?_⟩,
        ⟨⟨trivial, ?_⟩, ?_⟩, trivial⟩ rfl⟩
    all_goals decide +kernel

end Gatehouse
