import Gatehouse.Decision

/-!
# The decision that follows from what counts

`Decision.Follows C d` says which decision `d` the terms `C` lead to, without saying how it is
found: the narrowest tier among them decides, and in it a single denial outweighs everything else.
There is exactly one such decision (`Follows.unique`), and it depends on nothing but the tiers and
rules that occur (`Follows.of_weights`).  `Decision.resolve` finds it (`follows_resolve`), as every
step of its pass leaves the decision that follows from the grants met so far (`Follows.narrow`).
Whoever compares two decisions compares what counts for them and never looks at the pass.
-/

set_option autoImplicit false

namespace Gatehouse

/-- What terms weigh in a decision. -/
def Terms.weight (t : Terms) : Tier × Rule := (t.tier, t.rule)

/-- The tier is the narrowest that any of the terms `C` are in. -/
structure Tier.IsTop (C : Terms → Prop) (tier : Tier) : Prop where
  /-- Some of the terms are in it. -/
  attained : ∃ t, C t ∧ t.tier = tier
  /-- None are in a narrower one. -/
  le : ∀ t, C t → t.tier.rank ≤ tier.rank

namespace Decision

/-- The decision that follows when exactly the terms `C` count. -/
inductive Follows (C : Terms → Prop) : Decision → Prop
  /-- Nothing counts. -/
  | noMatch (none : ∀ t, ¬ C t) : Follows C ⟨false, .noMatch⟩
  /-- Some of the narrowest deny. -/
  | denied {tier : Tier} (top : tier.IsTop C)
      (denies : ∃ t, C t ∧ t.tier = tier ∧ t.rule = .deny) : Follows C ⟨false, .denied tier⟩
  /-- None of the narrowest deny. -/
  | allowed {tier : Tier} (top : tier.IsTop C)
      (allows : ∀ t, C t → t.tier = tier → t.rule ≠ .deny) : Follows C ⟨true, .allowed tier⟩

end Decision

/-! ## The narrowest tier -/

variable {C D : Terms → Prop}

theorem Tier.IsTop.unique {tier tier' : Tier} (h : tier.IsTop C) (h' : tier'.IsTop C) :
    tier = tier' := by
  obtain ⟨t, ht, rfl⟩ := h.attained
  obtain ⟨t', ht', rfl⟩ := h'.attained
  exact Tier.rank_injective (Nat.le_antisymm (h'.le t ht) (h.le t' ht'))

/-- The narrowest tier stays the narrowest when terms are added that are not narrower. -/
theorem Tier.IsTop.or_eq {tier : Tier} (h : tier.IsTop C) {t : Terms}
    (ht : t.tier.rank ≤ tier.rank) : tier.IsTop (fun u => C u ∨ u = t) := by
  obtain ⟨b, hb, hbest⟩ := h.attained
  refine ⟨⟨b, .inl hb, hbest⟩, ?_⟩
  rintro u (hu | rfl)
  · exact h.le u hu
  · exact ht

/-- Terms that are added are the narrowest ones if no others are narrower. -/
theorem Terms.isTop_tier {t : Terms} (h : ∀ u, C u → u.tier.rank ≤ t.tier.rank) :
    t.tier.IsTop (fun u => C u ∨ u = t) := by
  refine ⟨⟨t, .inr rfl, rfl⟩, ?_⟩
  rintro u (hu | rfl)
  · exact h u hu
  · exact Nat.le_refl _

namespace Decision

/-! ## There is one decision -/

theorem Follows.unique {d e : Decision} (hd : Follows C d) (he : Follows C e) : d = e := by
  cases hd with
  | noMatch none =>
    cases he with
    | noMatch => rfl
    | denied top | allowed top =>
      obtain ⟨t, ht, -⟩ := top.attained
      exact absurd ht (none t)
  | @denied tier top denies =>
    cases he with
    | noMatch none =>
      obtain ⟨t, ht, -⟩ := top.attained
      exact absurd ht (none t)
    | denied top' => rw [top.unique top']
    | allowed top' allows =>
      obtain ⟨t, ht, htier, hrule⟩ := denies
      exact absurd hrule (allows t ht (htier.trans (top.unique top')))
  | @allowed tier top allows =>
    cases he with
    | noMatch none =>
      obtain ⟨t, ht, -⟩ := top.attained
      exact absurd ht (none t)
    | denied top' denies =>
      obtain ⟨t, ht, htier, hrule⟩ := denies
      exact absurd hrule (allows t ht (htier.trans (top'.unique top)))
    | allowed top' => rw [top.unique top']

/-! ## Only tiers and rules matter -/

/-- Every one of the terms `C` weighs as much as one of the terms `D`. -/
def Covered (C D : Terms → Prop) : Prop := ∀ t, C t → ∃ u, D u ∧ u.weight = t.weight

theorem Covered.isTop {tier : Tier} (hCD : Covered C D) (hDC : Covered D C) (h : tier.IsTop C) :
    tier.IsTop D := by
  refine ⟨?_, fun u hu => ?_⟩
  · obtain ⟨t, ht, rfl⟩ := h.attained
    obtain ⟨u, hu, hw⟩ := hCD t ht
    exact ⟨u, hu, congrArg Prod.fst hw⟩
  · obtain ⟨t, ht, hw⟩ := hDC u hu
    have htier : t.tier = u.tier := congrArg Prod.fst hw
    exact htier ▸ h.le t ht

theorem Follows.of_weights {d : Decision} (hCD : Covered C D) (hDC : Covered D C)
    (h : Follows C d) : Follows D d := by
  cases h with
  | noMatch none =>
    refine .noMatch fun u hu => ?_
    obtain ⟨t, ht, -⟩ := hDC u hu
    exact none t ht
  | denied top denies =>
    obtain ⟨t, ht, htier, hrule⟩ := denies
    obtain ⟨u, hu, hw⟩ := hCD t ht
    exact .denied (hCD.isTop hDC top)
      ⟨u, hu, (congrArg Prod.fst hw).trans htier, (congrArg Prod.snd hw).trans hrule⟩
  | allowed top allows =>
    refine .allowed (hCD.isTop hDC top) fun u hu htier hrule => ?_
    obtain ⟨t, ht, hw⟩ := hDC u hu
    exact allows t ht ((congrArg Prod.fst hw).trans htier) ((congrArg Prod.snd hw).trans hrule)

theorem Covered.of_imp (h : ∀ t, C t → D t) : Covered C D := fun t ht => ⟨t, h t ht, rfl⟩

theorem Follows.congr {d : Decision} (hCD : ∀ t, C t ↔ D t) (h : Follows C d) : Follows D d :=
  h.of_weights (.of_imp fun t => (hCD t).1) (.of_imp fun t => (hCD t).2)

/-! ## Where nothing denies -/

/-- Where nothing that counts denies, a request is granted exactly if something counts, and else
nothing matches. -/
theorem Follows.of_allow {d : Decision} (h : Follows C d)
    (hallow : ∀ x, C x → x.rule = .allow) :
    (d.allowed = true ↔ ∃ x, C x) ∧
      (d.allowed = true → ∃ tier, d.reason = .allowed tier ∧ tier.IsTop C) ∧
      (d.allowed = false → d.reason = .noMatch) := by
  cases h with
  | noMatch none =>
    have hnone : ¬ ∃ x, C x := fun ⟨x, hx⟩ => none x hx
    exact ⟨iff_of_false Bool.false_ne_true hnone, fun h => absurd h Bool.false_ne_true,
      fun _ => rfl⟩
  | denied top denies =>
    obtain ⟨x, hx, -, hdeny⟩ := denies
    rw [hallow x hx] at hdeny
    cases hdeny
  | @allowed tier top =>
    obtain ⟨x, hx, -⟩ := top.attained
    exact ⟨iff_of_true rfl ⟨x, hx⟩, fun _ => ⟨tier, rfl, top⟩,
      fun h => absurd h.symm Bool.false_ne_true⟩

/-! ## The pass finds it -/

theorem follows_ofTier_none_iff : Follows C (ofTier none) ↔ ∀ t, ¬C t :=
  ⟨fun h => by cases h; assumption, .noMatch⟩

/-- What the pass holds is right if the tier is the narrowest and the mark tells of a denial
there. -/
theorem follows_ofTier_some_iff {tier : Tier} {marked : Bool} :
    Follows C (ofTier (some (tier, marked))) ↔
      tier.IsTop C ∧ (marked = true ↔ ∃ t, C t ∧ t.tier = tier ∧ t.rule = .deny) := by
  constructor
  · intro h
    cases marked with
    | true =>
      cases h with
      | denied top denies => exact ⟨top, iff_of_true rfl denies⟩
    | false =>
      cases h with
      | allowed top allows =>
        exact ⟨top, iff_of_false Bool.false_ne_true fun ⟨t, ht, htier, hrule⟩ =>
          allows t ht htier hrule⟩
  · rintro ⟨top, hmarked⟩
    cases marked with
    | true => exact .denied top (hmarked.1 rfl)
    | false =>
      exact .allowed top fun t ht htier hrule =>
        Bool.false_ne_true (hmarked.2 ⟨t, ht, htier, hrule⟩)

/-- One step of the pass: with one more grant counted, what it holds is right again. -/
theorem Follows.narrow {top : Option (Tier × Bool)} (h : Follows C (ofTier top)) (t : Terms) :
    Follows (fun u => C u ∨ u = t) (ofTier (narrow top t)) := by
  match top with
  | none =>
    have hnone := follows_ofTier_none_iff.1 h
    exact follows_ofTier_some_iff.2 ⟨t.isTop_tier fun u hu => absurd hu (hnone u), by simp [hnone]⟩
  | some (best, marked) =>
    obtain ⟨htop, hmarked⟩ := follows_ofTier_some_iff.1 h
    rw [Decision.narrow]
    -- The grant is in the tier held so far, in a wider one or in a narrower one.
    split
    · rename_i heq
      refine follows_ofTier_some_iff.2 ⟨htop.or_eq (Nat.le_of_eq (by rw [heq])), ?_⟩
      simp [hmarked, heq, or_and_right, exists_or]
    · rename_i hne
      split
      · rename_i hlt
        refine follows_ofTier_some_iff.2 ⟨htop.or_eq (Nat.le_of_lt hlt), ?_⟩
        simp [hmarked, Ne.symm hne, or_and_right, exists_or]
      · rename_i hge
        have hgt : best.rank < t.tier.rank :=
          Nat.lt_of_le_of_ne (Nat.not_lt.1 hge) fun h => hne (Tier.rank_injective h)
        have hbelow : ∀ u, C u → u.tier.rank < t.tier.rank := fun u hu =>
          Nat.lt_of_le_of_lt (htop.le u hu) hgt
        have hnone : ¬∃ u, C u ∧ u.tier = t.tier ∧ u.rule = .deny := fun ⟨u, hu, htier, _⟩ =>
          Nat.ne_of_lt (hbelow u hu) (congrArg Tier.rank htier)
        refine follows_ofTier_some_iff.2
          ⟨t.isTop_tier fun u hu => Nat.le_of_lt (hbelow u hu), ?_⟩
        simp [or_and_right, exists_or, hnone]

/-- The whole pass, from what it holds already. -/
theorem Follows.foldl_narrow (ts : List Terms) {top : Option (Tier × Bool)}
    (h : Follows C (ofTier top)) :
    Follows (fun u => C u ∨ u ∈ ts) (ofTier (ts.foldl Decision.narrow top)) := by
  induction ts generalizing C top with
  | nil => simpa using h
  | cons t ts ih => simpa [or_assoc] using ih (h.narrow t)

/-- The single pass over some terms finds the decision that follows from them. -/
theorem follows_resolve (ts : List Terms) : Follows (· ∈ ts) (resolve ts) := by
  have hempty : Follows (fun _ => False) (ofTier none) := .noMatch fun _ => id
  exact (hempty.foldl_narrow ts).congr fun _ => by simp

end Decision

end Gatehouse
