import Gatehouse.Proofs.Template.Applied
import Gatehouse.Template.Difference
import Mathlib.Data.List.Forall2

/-!
# What a difference tells

A difference is made from the lines of a template and from what the store has under the name of the
template, before anything is applied.  This file relates it to what applying the scenario really
does.

Both sides are said through the grants that a name stands for (`Store.GrantOf`): which signatures
they have (`Store.Signs`), and what they say beside their remarks (`Store.Stands`).  For a template
the same is read off its lines.  The lists of a difference are taken apart one by one, and
`Store.difference_isEmpty_iff` puts them together again: a difference is empty exactly when the role
is there, has the flags of the template, and its grants stand for what the lines stand for, each
as a set.

After a template has been applied its role is just like that, so the difference is empty
(`diff_after_apply_isEmpty`); and as the role then has the signatures of the lines and no others,
the difference made before tells exactly what applying changes (`diff_foretells_apply`).
-/

set_option autoImplicit false

namespace Gatehouse

open Std

/-! ## Signatures -/

namespace Signatures

variable {a b : Signatures} {σ : Signature}

theorem mem_without : σ ∈ a.without b ↔ σ ∈ a ∧ σ ∉ b := by
  simp only [without, ← Table.mem_def, Table.mem_filter, decide_eq_true_eq]

theorem ascending_without (a b : Signatures) : Ascending Signature.order (a.without b) :=
  (a.filter fun σ => σ ∉ b).ascending

theorem without_eq_nil_iff : a.without b = [] ↔ ∀ σ, σ ∈ a → σ ∈ b := by
  simp only [List.eq_nil_iff_forall_not_mem, mem_without, not_and, Decidable.not_not]

end Signatures

theorem RoleTemplate.mem_signatures {d : RoleTemplate} {σ : Signature} :
    σ ∈ d.signatures ↔ ∃ l ∈ d.lines, l.signature = σ := by
  rw [signatures, Table.mem_ofList, List.mem_map]

theorem mem_signaturesOf {grants : List Grant} {σ : Signature} :
    σ ∈ signaturesOf grants ↔ ∃ g ∈ grants, g.signature = σ := by
  rw [signaturesOf, Table.mem_ofList, List.mem_map]

/-! ## Flags -/

/-- The change tells a flag that is not the same in the new flags as in the old ones. -/
inductive FlagChange.Tells (old new : RoleFlags) : FlagChange → Prop
  /-- Whether holders may log in. -/
  | canLogin (h : old.canLogin ≠ new.canLogin) : Tells old new (.canLogin old.canLogin new.canLogin)
  /-- Whether holders administer the site. -/
  | isAdmin (h : old.isAdmin ≠ new.isAdmin) : Tells old new (.isAdmin old.isAdmin new.isAdmin)

theorem mem_flagChanges {d : RoleTemplate} {r : Role} {c : FlagChange} :
    c ∈ flagChanges d r ↔ c.Tells r.flags d.flags := by
  rw [flagChanges, List.mem_append]
  constructor
  · rintro (h | h) <;> split at h
    · cases h
    · rename_i hne
      obtain rfl := List.mem_singleton.1 h
      exact .canLogin hne
    · cases h
    · rename_i hne
      obtain rfl := List.mem_singleton.1 h
      exact .isAdmin hne
  · rintro (hne | hne)
    · have hlogin : r.flags.canLogin ≠ d.canLogin := hne
      rw [if_neg hlogin]
      exact .inl (List.mem_singleton.2 rfl)
    · have hadmin : r.flags.isAdmin ≠ d.isAdmin := hne
      rw [if_neg hadmin]
      exact .inr (List.mem_singleton.2 rfl)

theorem nodup_flagChanges (d : RoleTemplate) (r : Role) : (flagChanges d r).Nodup := by
  rw [flagChanges]
  split <;> split <;> simp

theorem flagChanges_eq_nil_iff {d : RoleTemplate} {r : Role} :
    flagChanges d r = [] ↔ r.flags.canLogin = d.canLogin ∧ r.flags.isAdmin = d.isAdmin := by
  rw [flagChanges, List.append_eq_nil_iff]
  split <;> split <;> simp_all

/-! ## Rules -/

/-- The grants that deny or are not in force although their signature is wanted. -/
def turnedRound (wanted : Signatures) (grants : List Grant) : List Grant :=
  grants.filter fun g => g.signature ∈ wanted && (g.rule == .deny || !g.active)

theorem mem_turnedRound {wanted : Signatures} {grants : List Grant} {g : Grant} :
    g ∈ turnedRound wanted grants ↔
      g ∈ grants ∧ g.signature ∈ wanted ∧ (g.rule = .deny ∨ g.active = false) := by
  simp [turnedRound]

/-- Each of these grants is told once. -/
theorem ruleChanges_perm (wanted : Signatures) (grants : List Grant) :
    (ruleChanges wanted grants).Perm
      ((turnedRound wanted grants).map fun g => ⟨g.signature, g.rule, g.active⟩) := by
  rw [ruleChanges, List.filter_map, List.filter_filter]
  exact sortBy_perm _ _

theorem ruleChanges_eq_nil_iff {wanted : Signatures} {grants : List Grant} :
    ruleChanges wanted grants = [] ↔
      ∀ g ∈ grants, g.signature ∈ wanted → g.rule = .allow ∧ g.active = true := by
  rw [← List.length_eq_zero_iff, (ruleChanges_perm wanted grants).length_eq, List.length_map,
    List.length_eq_zero_iff, List.eq_nil_iff_forall_not_mem]
  refine forall_congr' fun g => ?_
  rw [mem_turnedRound]
  cases g.rule <;> cases g.active <;> simp

theorem ruleChanges_ascending (wanted : Signatures) (grants : List Grant) :
    (ruleChanges wanted grants).Pairwise
      fun c c' => (Signature.order c.signature c'.signature).isLE := by
  have htrans : TransCmp fun c c' : RuleChange => Signature.order c.signature c'.signature :=
    { eq_swap := OrientedCmp.eq_swap, isLE_trans := TransCmp.isLE_trans }
  exact pairwise_sortBy _ _

/-! ## Empty differences -/

/-- What the terms say beside their remarks: the signature, the rule, and whether they are in
force. -/
def Terms.standing (t : Terms) : Signature × Rule × Bool := (t.signature, t.rule, t.active)

/-- Grants say the same as lines, as far as a difference looks, if both have the same signatures and
all the grants allow and are in force. -/
theorem standing_iff_of_lines {grants : List Grant} {lines : List GrantLine} :
    (∀ x, (∃ g ∈ grants, g.standing = x) ↔ ∃ l ∈ lines, l.terms.standing = x) ↔
      (∀ l ∈ lines, ∃ g ∈ grants, g.signature = l.signature) ∧
      (∀ g ∈ grants, ∃ l ∈ lines, l.signature = g.signature) ∧
      ∀ g ∈ grants, g.rule = .allow ∧ g.active = true := by
  constructor
  · intro h
    have hback : ∀ g ∈ grants, ∃ l ∈ lines, l.terms.standing = g.standing :=
      fun g hg => (h g.standing).1 ⟨g, hg, rfl⟩
    refine ⟨fun l hl => ?_, fun g hg => ?_, fun g hg => ?_⟩
    · obtain ⟨g, hg, hst⟩ := (h l.terms.standing).2 ⟨l, hl, rfl⟩
      exact ⟨g, hg, congrArg (·.1) hst⟩
    · obtain ⟨l, hl, hst⟩ := hback g hg
      exact ⟨l, hl, congrArg (·.1) hst⟩
    · obtain ⟨l, hl, hst⟩ := hback g hg
      exact ⟨congrArg (·.2.1) hst.symm, congrArg (·.2.2) hst.symm⟩
  · rintro ⟨hadd, hremove, hallow⟩ x
    have hst : ∀ g ∈ grants, ∀ l : GrantLine, g.signature = l.signature →
        g.standing = l.terms.standing := fun g hg l hsig => by
      obtain ⟨hrule, hactive⟩ := hallow g hg
      rw [Terms.standing, hsig, hrule, hactive]
      rfl
    constructor
    · rintro ⟨g, hg, rfl⟩
      obtain ⟨l, hl, hsig⟩ := hremove g hg
      exact ⟨l, hl, (hst g hg l hsig.symm).symm⟩
    · rintro ⟨l, hl, rfl⟩
      obtain ⟨g, hg, hsig⟩ := hadd l hl
      exact ⟨g, hg, hst g hg l hsig⟩

/-- The difference of a role that is there is empty exactly when its flags are those of the template
and its grants say what the lines say. -/
theorem RoleTemplate.difference_isEmpty_iff {d : RoleTemplate} {r : Role} {grants : List Grant} :
    (d.difference (some (r, grants))).isEmpty = true ↔
      r.flags.canLogin = d.canLogin ∧ r.flags.isAdmin = d.isAdmin ∧
        ∀ x, (∃ g ∈ grants, g.standing = x) ↔ ∃ l ∈ d.lines, l.terms.standing = x := by
  have hlists : (d.difference (some (r, grants))).isEmpty = true ↔
      flagChanges d r = [] ∧ d.signatures.without (signaturesOf grants) = [] ∧
        (signaturesOf grants).without d.signatures = [] ∧
          ruleChanges d.signatures grants = [] := by
    simp [RoleDifference.isEmpty, difference, and_assoc]
  rw [hlists, flagChanges_eq_nil_iff, Signatures.without_eq_nil_iff, Signatures.without_eq_nil_iff,
    ruleChanges_eq_nil_iff, and_assoc, standing_iff_of_lines]
  simp only [mem_signatures, mem_signaturesOf, forall_exists_index, and_imp,
    forall_apply_eq_imp_iff₂]
  -- Once nothing is to be removed every grant has a wanted signature.
  refine and_congr_right fun _ => and_congr_right fun _ => and_congr_right fun _ =>
    and_congr_right fun hremove => ⟨fun h g hg => ?_, fun h g hg _ _ _ => h g hg⟩
  obtain ⟨l, hl, hsig⟩ := hremove g hg
  exact h g hg l hl hsig

/-! ## What a name stands for -/

namespace Store

/-- The grant is one of the role with the name. -/
def GrantOf (s : Store) (name : String) (g : Grant) : Prop :=
  g ∈ s.grants ∧ ∃ r ∈ s.roles, r.name = name ∧ g.owner = .role r.id

/-- The role with the name has a grant with the signature. -/
def Signs (s : Store) (name : String) (σ : Signature) : Prop :=
  ∃ g, s.GrantOf name g ∧ g.signature = σ

/-- The role with the name has a grant that says this, beside its remarks. -/
def Stands (s : Store) (name : String) (x : Signature × Rule × Bool) : Prop :=
  ∃ g, s.GrantOf name g ∧ g.standing = x

variable {s : Store}

/-- No other role has the name of a role that is there. -/
theorem Coherent.exists_named_iff (hs : s.Coherent) {r : Role} (hr : r ∈ s.roles)
    {P : Role → Prop} : (∃ r' ∈ s.roles, r'.name = r.name ∧ P r') ↔ P r := by
  constructor
  · rintro ⟨r', hr', hname, hP⟩
    rwa [hs.names r' hr' r hr hname] at hP
  · intro hP
    exact ⟨r, hr, rfl, hP⟩

theorem Coherent.grantOf_iff (hs : s.Coherent) {r : Role} (hr : r ∈ s.roles) {g : Grant} :
    s.GrantOf r.name g ↔ g ∈ s.grantsOfRole r.id := by
  rw [mem_grantsOfRole, GrantOf, hs.exists_named_iff hr]

/-- The role with the name and its grants, as a difference looks them up. -/
def current? (s : Store) (name : String) : Option (Role × List Grant) :=
  (s.roleNamed? name).map fun r => (r, s.grantsOfRole r.id)

/-- The grants of the role with the name, as listed; none if there is no such role. -/
def grantsNamed (s : Store) (name : String) : List Grant := ((s.current? name).map (·.2)).getD []

theorem mem_grantsNamed (hs : s.Coherent) {name : String} {g : Grant} :
    g ∈ s.grantsNamed name ↔ s.GrantOf name g := by
  rw [grantsNamed, current?]
  cases hfound : s.roleNamed? name with
  | some r =>
    obtain ⟨hr, rfl⟩ := hs.roleNamed?_eq_some_iff.1 hfound
    rw [hs.grantOf_iff hr]
    rfl
  | none =>
    have hnone := roleNamed?_eq_none_iff.1 hfound
    exact iff_of_false List.not_mem_nil fun ⟨_, r, hr, hname, _⟩ => hnone r hr hname

theorem mem_signaturesOf_grantsNamed (hs : s.Coherent) {name : String} {σ : Signature} :
    σ ∈ signaturesOf (s.grantsNamed name) ↔ s.Signs name σ := by
  simp only [mem_signaturesOf, mem_grantsNamed hs, Signs]

theorem nodup_grantsNamed (s : Store) (name : String) : (s.grantsNamed name).Nodup := by
  rw [grantsNamed, current?]
  cases s.roleNamed? name with
  | none => exact .nil
  | some r => exact s.nodup_grantsOfRole r.id

/-- The difference between a template and the store. -/
def difference (s : Store) (d : RoleTemplate) : RoleDifference := d.difference (s.current? d.name)

/-- The role that a difference looks up is the one with the name, if there is one. -/
theorem isNew_difference {d : RoleTemplate} :
    (s.difference d).isNew = true ↔ ∀ r ∈ s.roles, r.name ≠ d.name := by
  rw [← roleNamed?_eq_none_iff, ← Option.isNone_iff_eq_none]
  show (s.current? d.name).isNone = true ↔ _
  rw [current?, Option.isNone_map]

theorem mem_flags_difference (hs : s.Coherent) {d : RoleTemplate} {c : FlagChange} :
    c ∈ (s.difference d).flags ↔ ∃ r ∈ s.roles, r.name = d.name ∧ c.Tells r.flags d.flags := by
  show c ∈ ((s.current? d.name).map fun p => flagChanges d p.1).getD [] ↔ _
  rw [current?]
  cases hfound : s.roleNamed? d.name with
  | some r =>
    obtain ⟨hr, hname⟩ := hs.roleNamed?_eq_some_iff.1 hfound
    rw [← hname, hs.exists_named_iff hr]
    exact mem_flagChanges
  | none =>
    have hnone := roleNamed?_eq_none_iff.1 hfound
    exact iff_of_false List.not_mem_nil fun ⟨r, hr, hname, _⟩ => hnone r hr hname

theorem nodup_flags_difference (s : Store) (d : RoleTemplate) : (s.difference d).flags.Nodup := by
  show (((s.current? d.name).map fun p => flagChanges d p.1).getD []).Nodup
  cases s.current? d.name with
  | none => exact .nil
  | some p => exact nodup_flagChanges d p.1

/-- The difference between a template and the store is empty exactly when the role is there, has the
flags of the template, and its grants say what the lines say. -/
theorem difference_isEmpty_iff (hs : s.Coherent) {d : RoleTemplate} :
    (s.difference d).isEmpty = true ↔ ∃ r ∈ s.roles, r.name = d.name ∧
      r.flags.canLogin = d.canLogin ∧ r.flags.isAdmin = d.isAdmin ∧
        ∀ x, s.Stands d.name x ↔ ∃ l ∈ d.lines, l.terms.standing = x := by
  rw [difference, current?]
  cases hfound : s.roleNamed? d.name with
  | some r =>
    obtain ⟨hr, hname⟩ := hs.roleNamed?_eq_some_iff.1 hfound
    rw [Option.map_some, RoleTemplate.difference_isEmpty_iff, ← hname, hs.exists_named_iff hr]
    simp only [Stands, hs.grantOf_iff hr]
  | none =>
    have hnone := roleNamed?_eq_none_iff.1 hfound
    exact iff_of_false Bool.false_ne_true fun ⟨r, hr, hname, _⟩ => hnone r hr hname

end Store

/-! ## Differences of a scenario -/

theorem run_differenceOf_memory (now : Stamp) (s : Store) (d : RoleTemplate) :
    ((Backend.memory now).differenceOf d).run s = (.ok (s.difference d), s) := by
  rw [Backend.differenceOf, Store.difference, Store.current?,
    Action.run_bind_of_ok (Backend.run_roleNamed_memory now s d.name)]
  cases s.roleNamed? d.name with
  | none => rfl
  | some r => rfl

theorem run_differences_memory (now : Stamp) (s : Store) (ds : List RoleTemplate) :
    ((Backend.memory now).differences ds).run s = (.ok (ds.map s.difference), s) := by
  induction ds with
  | nil => rfl
  | cons d rest ih =>
    rw [Backend.differences, Action.run_bind_of_ok (run_differenceOf_memory now s d),
      Action.run_bind_of_ok ih]
    rfl

/-- Comparing a scenario with the store never fails and changes nothing. -/
theorem run_diffScenario_memory (now : Stamp) (s : Store) (sc : Scenario) :
    ((Backend.memory now).diffScenario sc).run s = (.ok (sc.roles.map s.difference), s) :=
  run_differences_memory now s sc.roles

/-! ## After applying -/

/-- The grants of a role that its template has made say what the lines say. -/
theorem RoleTemplate.Makes.exists_grantOf_iff {d : RoleTemplate} {s t : Store} {r : Role}
    (h : d.Makes s t r) (ht : t.Coherent) {P : Terms → Prop} :
    (∃ g, t.GrantOf d.name g ∧ P g.toTerms) ↔ ∃ l ∈ d.lines, P l.terms := by
  have hterms : ∀ x, x ∈ (t.grantsOfRole r.id).map (·.toTerms) ↔ x ∈ d.lines.map (·.terms) :=
    fun _ => h.grants.mem_iff
  simp only [List.mem_map] at hterms
  simp only [← h.name, ht.grantOf_iff h.mem]
  constructor
  · rintro ⟨g, hg, hP⟩
    obtain ⟨l, hl, hlg⟩ := (hterms g.toTerms).1 ⟨g, hg, rfl⟩
    exact ⟨l, hl, hlg ▸ hP⟩
  · rintro ⟨l, hl, hP⟩
    obtain ⟨g, hg, hgl⟩ := (hterms l.terms).2 ⟨l, hl, rfl⟩
    exact ⟨g, hg, hgl ▸ hP⟩

theorem RoleTemplate.Makes.flags {d : RoleTemplate} {s t : Store} {r : Role}
    (h : d.Makes s t r) : r.flags = d.flags := by
  rw [RoleTemplate.flags, ← h.canLogin, ← h.isAdmin]
  exact congrArg (RoleFlags.mk _ _) (h.privateLabels.trans h.canLogin.symm)

namespace Store.Applied

variable {s t : Store} {ds : List RoleTemplate} {d : RoleTemplate}

theorem signs_iff (h : s.Applied t ds) (ht : t.Coherent) (hd : d ∈ ds) {σ : Signature} :
    t.Signs d.name σ ↔ σ ∈ d.signatures := by
  obtain ⟨r, hr⟩ := h.made d hd
  rw [RoleTemplate.mem_signatures]
  exact hr.exists_grantOf_iff ht (P := fun x => x.signature = σ)

theorem stands_iff (h : s.Applied t ds) (ht : t.Coherent) (hd : d ∈ ds)
    {x : Signature × Rule × Bool} :
    t.Stands d.name x ↔ ∃ l ∈ d.lines, l.terms.standing = x := by
  obtain ⟨r, hr⟩ := h.made d hd
  exact hr.exists_grantOf_iff ht (P := fun y => y.standing = x)

end Store.Applied

/-- **Once a scenario has been applied there is no difference left.**  Comparing it with the store
again gives one difference for each of its roles, in their order, and all of them are empty. -/
theorem diff_after_apply_isEmpty {now : Stamp} {s : Store} (hs : s.ReachableInRange) {run : String}
    {sc : Scenario} (hroom : s.Room sc.roles.length (lineCount sc.roles)) {report : ApplyReport}
    {t : Store} (h : ((Backend.memory now).applyScenario run sc).run s = (.ok report, t))
    (later : Stamp) :
    ∃ diffs, ((Backend.memory later).diffScenario sc).run t = (.ok diffs, t) ∧
      diffs.map (·.role) = sc.roles.map (·.name) ∧ ∀ diff ∈ diffs, diff.isEmpty = true := by
  obtain ⟨ht, happlied⟩ := applied_of_applyScenario hs hroom h
  refine ⟨_, run_diffScenario_memory later t sc, ?_, fun diff hdiff => ?_⟩
  · rw [List.map_map]
    rfl
  · obtain ⟨d, hd, rfl⟩ := List.mem_map.1 hdiff
    obtain ⟨r, hr⟩ := happlied.made d hd
    exact (Store.difference_isEmpty_iff ht.coherent).2
      ⟨r, hr.mem, hr.name, hr.canLogin, hr.isAdmin, fun _ => happlied.stands_iff ht.coherent hd⟩

/-- After the scenario for the press has been applied to the teams, its two differences are empty,
although its lines spell "not narrowed" in several ways and one grant is named twice. -/
theorem diff_after_apply_isEmpty_press :
    ∃ report t, ((Backend.memory newYear).applyScenario "1" press).run teams = (.ok report, t) ∧
      ∃ diffs, ((Backend.memory newYear).diffScenario press).run t = (.ok diffs, t) ∧
        diffs.map (·.role) = ["writers", "printers"] ∧ ∀ diff ∈ diffs, diff.isEmpty = true := by
  obtain ⟨report, t, h⟩ := exists_run_press
  exact ⟨report, t, h, diff_after_apply_isEmpty reachableInRange_teams room_press h newYear⟩

/-! ## Before applying -/

/-- The difference tells exactly what becomes of the role of the template when the store `s` is
turned into the store `t`. -/
structure RoleDifference.Foretells (diff : RoleDifference) (d : RoleTemplate) (s t : Store) :
    Prop where
  /-- It is about the role with the name of the template, -/
  role : diff.role = d.name
  /-- which is new if there is no such role yet. -/
  isNew : diff.isNew = true ↔ ∀ r ∈ s.roles, r.name ≠ d.name
  /-- The additions are in strictly ascending order -/
  additions_ascending : Ascending Signature.order diff.additions
  /-- and are the signatures that the role will have and does not have yet. -/
  mem_additions : ∀ σ, σ ∈ diff.additions ↔ t.Signs d.name σ ∧ ¬ s.Signs d.name σ
  /-- The removals are in strictly ascending order -/
  removals_ascending : Ascending Signature.order diff.removals
  /-- and are the signatures that the role has and will not have any more. -/
  mem_removals : ∀ σ, σ ∈ diff.removals ↔ s.Signs d.name σ ∧ ¬ t.Signs d.name σ
  /-- The changes of rules are in ascending order of signatures -/
  rules_ascending : diff.rules.Pairwise fun c c' => (Signature.order c.signature c'.signature).isLE
  /-- and are one for each grant that denies or is not in force and has a signature that the role
  will have. -/
  rules : ∃ grants : List Grant, grants.Nodup ∧
    (∀ g, g ∈ grants ↔ s.GrantOf d.name g ∧ t.Signs d.name g.signature ∧
      (g.rule = .deny ∨ g.active = false)) ∧
    diff.rules.Perm (grants.map fun g => ⟨g.signature, g.rule, g.active⟩)
  /-- No change of a flag is told twice, -/
  flags_nodup : diff.flags.Nodup
  /-- and the changes told are those of a role that is there. -/
  mem_flags : ∀ c, c ∈ diff.flags ↔ ∃ old ∈ s.roles, ∃ new ∈ t.roles,
    old.name = d.name ∧ new.name = d.name ∧ c.Tells old.flags new.flags
  /-- It is empty exactly when the role is there, has the flags of the template, and its grants
  already say what they will say. -/
  isEmpty_iff : diff.isEmpty = true ↔ ∃ r ∈ s.roles, r.name = d.name ∧
    r.flags.canLogin = d.canLogin ∧ r.flags.isAdmin = d.isAdmin ∧
      ∀ x, s.Stands d.name x ↔ t.Stands d.name x

/-- What applying does to a role is what the difference told before. -/
theorem Store.Applied.foretells {s t : Store} {ds : List RoleTemplate} {d : RoleTemplate}
    (h : s.Applied t ds) (hs : s.Coherent) (ht : t.Coherent) (hd : d ∈ ds) :
    (s.difference d).Foretells d s t where
  role := rfl
  isNew := isNew_difference
  additions_ascending := Signatures.ascending_without _ _
  mem_additions σ := by
    rw [h.signs_iff ht hd, ← mem_signaturesOf_grantsNamed hs]
    exact Signatures.mem_without
  removals_ascending := Signatures.ascending_without _ _
  mem_removals σ := by
    rw [h.signs_iff ht hd, ← mem_signaturesOf_grantsNamed hs]
    exact Signatures.mem_without
  rules_ascending := ruleChanges_ascending _ _
  rules := by
    refine ⟨turnedRound d.signatures (s.grantsNamed d.name), (s.nodup_grantsNamed _).filter _,
      fun g => ?_, ruleChanges_perm _ _⟩
    rw [mem_turnedRound, mem_grantsNamed hs, h.signs_iff ht hd]
  flags_nodup := s.nodup_flags_difference d
  mem_flags c := by
    obtain ⟨new, hnew⟩ := h.made d hd
    rw [mem_flags_difference hs]
    constructor
    · rintro ⟨old, hold, hname, hc⟩
      exact ⟨old, hold, new, hnew.mem, hname, hnew.name, hnew.flags ▸ hc⟩
    · rintro ⟨old, hold, new', hnew', hname, hname', hc⟩
      obtain rfl := hnew.only new' hnew' hname'
      exact ⟨old, hold, hname, hnew.flags ▸ hc⟩
  isEmpty_iff := by
    rw [difference_isEmpty_iff hs]
    simp only [h.stands_iff ht hd]

/-- **A difference tells exactly what applying will do.**  Comparing a scenario with the store gives
one difference for each of its roles, in their order, and changes nothing; and if the scenario is
then applied, each difference has told what becomes of its role. -/
theorem diff_foretells_apply {now : Stamp} {s : Store} (hs : s.ReachableInRange) {run : String}
    {sc : Scenario} (hroom : s.Room sc.roles.length (lineCount sc.roles)) {report : ApplyReport}
    {t : Store} (h : ((Backend.memory now).applyScenario run sc).run s = (.ok report, t))
    (earlier : Stamp) :
    ∃ diffs, ((Backend.memory earlier).diffScenario sc).run s = (.ok diffs, s) ∧
      List.Forall₂ (fun d diff => diff.Foretells d s t) sc.roles diffs := by
  obtain ⟨ht, happlied⟩ := applied_of_applyScenario hs hroom h
  refine ⟨_, run_diffScenario_memory earlier s sc, ?_⟩
  rw [List.forall₂_map_right_iff, List.forall₂_same]
  exact fun d hd => happlied.foretells hs.coherent ht.coherent hd

/-- A scenario for two roles that the teams have, with a denial that is wanted as a grant and one
that is not, and for one role that they do not have. -/
def review : Scenario where
  name := "review"
  roles :=
    [{ name := "writers", canLogin := true,
       lines :=
         [{ area := "news", action := "see" },
           { area := "news", item := some "draft", action := "see" },
           { area := "news", item := some "draft", action := "post", itemId := some 0 }] },
      { name := "editors", isAdmin := true, lines := [{ area := "news", action := "see" }] },
      { name := "printers" }]

/-- The differences of this scenario and the teams. -/
def reviewDifferences : List RoleDifference :=
  [⟨"writers", false, [.canLogin false true], [⟨"news", some "draft", "post", none⟩], [],
      [⟨⟨"news", some "draft", "see", none⟩, .deny, true⟩]⟩,
    ⟨"editors", false, [.isAdmin false true], [], [⟨"news", some "draft", "see", none⟩], []⟩,
    ⟨"printers", true, [], [], [], []⟩]

/-- What these differences tell is what applying the scenario does. -/
theorem diff_foretells_apply_review :
    ∃ report t, ((Backend.memory newYear).applyScenario "1" review).run teams = (.ok report, t) ∧
      List.Forall₂ (fun d diff => diff.Foretells d teams t) review.roles reviewDifferences := by
  obtain ⟨report, t, h⟩ := Action.exists_run_eq_ok
    (x := (Backend.memory newYear).applyScenario "1" review) (s := teams) (by decide +kernel)
  have hroom : teams.Room review.roles.length (lineCount review.roles) := by constructor <;> decide
  have hdiffs : review.roles.map teams.difference = reviewDifferences := by decide +kernel
  obtain ⟨diffs, hrun, hforetells⟩ :=
    diff_foretells_apply reachableInRange_teams hroom h newYear
  rw [run_diffScenario_memory, hdiffs] at hrun
  cases hrun
  exact ⟨report, t, h, hforetells⟩

end Gatehouse
