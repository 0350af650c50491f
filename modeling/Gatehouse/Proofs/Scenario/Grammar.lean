import Gatehouse.Proofs.Scenario.Problem
import Mathlib.Computability.RegularExpressions

/-!
# The grammar of scenarios

What a scenario has to look like is said here without the functions that examine it: the pattern of
an identifier as a regular expression, the rules for a line, a role and a scenario
(`Scenario.WellFormed`), and the places where a scenario breaks them (`Scenario.Breaks`).

The check passes exactly the scenarios that are well-formed.  A refusal lists exactly the broken
rules, each with its role and line.  Two rules are about several fields, that an instance needs an
item and that the names of roles differ; they are told of only where the fields are in order.
-/

set_option autoImplicit false

namespace Gatehouse

/-! ## Identifiers -/

namespace Pattern

/-- One of some characters. -/
def oneOf (cs : List Char) : RegularExpression Char := cs.foldr (fun c r => .char c + r) 0

/-- The characters from `a` to `z`. -/
def letters : List Char := "abcdefghijklmnopqrstuvwxyz".toList

/-- The characters from `0` to `9`. -/
def digits : List Char := "0123456789".toList

/-- The pattern `[a-z][-a-z0-9_/]*`. -/
def identifier : RegularExpression Char :=
  oneOf letters * .star (oneOf (letters ++ digits ++ ['_', '/', '-']))

theorem mem_oneOf {cs w : List Char} : w ∈ (oneOf cs).matches' ↔ ∃ c ∈ cs, w = [c] := by
  induction cs with
  | nil => simp [oneOf, Language.notMem_zero]
  | cons d cs ih =>
    have hstep : (oneOf (d :: cs)).matches' = {[d]} + (oneOf cs).matches' := rfl
    rw [hstep, Language.mem_add, ih, List.exists_mem_cons_iff]
    rfl

/-- The words over some characters. -/
theorem mem_star_oneOf {cs w : List Char} :
    w ∈ (RegularExpression.star (oneOf cs)).matches' ↔ ∀ c ∈ w, c ∈ cs := by
  rw [RegularExpression.matches'_star, Language.mem_kstar]
  constructor
  · rintro ⟨ws, rfl, hws⟩ c hc
    obtain ⟨v, hv, hcv⟩ := List.mem_flatten.1 hc
    obtain ⟨d, hd, rfl⟩ := mem_oneOf.1 (hws v hv)
    rwa [List.mem_singleton.1 hcv]
  · intro hall
    refine ⟨w.map fun c => [c], (List.flatMap_singleton' w).symm, fun v hv => ?_⟩
    obtain ⟨c, hc, rfl⟩ := List.mem_map.1 hv
    exact mem_oneOf.2 ⟨c, hall c hc, rfl⟩

/-- A text of the pattern is a letter with a word behind it. -/
theorem mem_identifier {w : List Char} :
    w ∈ identifier.matches' ↔
      ∃ c ∈ letters, ∃ cs, w = c :: cs ∧ ∀ d ∈ cs, d ∈ letters ++ digits ++ ['_', '/', '-'] := by
  rw [identifier, RegularExpression.matches'_mul, Language.mem_mul]
  constructor
  · rintro ⟨v, hv, cs, hcs, rfl⟩
    obtain ⟨c, hc, rfl⟩ := mem_oneOf.1 hv
    exact ⟨c, hc, cs, rfl, mem_star_oneOf.1 hcs⟩
  · rintro ⟨c, hc, cs, rfl, hcs⟩
    exact ⟨[c], mem_oneOf.2 ⟨c, hc, rfl⟩, cs, mem_star_oneOf.2 hcs, rfl⟩

/-- A range of characters is known once its code points are. -/
theorem mem_range_iff {lo hi : Char} {cs : List Char}
    (hcs : (cs.all fun c => lo ≤ c ∧ c ≤ hi) = true)
    (hall : ∀ n < hi.toNat + 1, lo.toNat ≤ n → Char.ofNat n ∈ cs) {c : Char} :
    c ∈ cs ↔ lo ≤ c ∧ c ≤ hi := by
  constructor
  · intro hc
    exact of_decide_eq_true (List.all_eq_true.1 hcs c hc)
  · rintro ⟨hlo, hhi⟩
    have hmem := hall c.toNat (Nat.lt_succ_of_le hhi) hlo
    rwa [Char.ofNat_toNat] at hmem

theorem mem_letters {c : Char} : c ∈ letters ↔ startsIdentifier c = true := by
  rw [startsIdentifier, Bool.and_eq_true, decide_eq_true_iff, decide_eq_true_iff]
  exact mem_range_iff (by decide) (by decide)

theorem mem_digits {c : Char} : c ∈ digits ↔ isDigit c = true := by
  rw [isDigit, Bool.and_eq_true, decide_eq_true_iff, decide_eq_true_iff]
  exact mem_range_iff (by decide) (by decide)

theorem mem_continuing {c : Char} :
    c ∈ letters ++ digits ++ ['_', '/', '-'] ↔ continuesIdentifier c = true := by
  simp only [continuesIdentifier, List.mem_append, mem_letters, mem_digits, List.mem_cons,
    List.not_mem_nil, or_false, Bool.or_eq_true, beq_iff_eq, or_assoc]

end Pattern

/-- The whole text matches the pattern of identifiers. -/
def Identifier (s : String) : Prop := s.toList ∈ Pattern.identifier.matches'

theorem isIdentifier_iff {s : String} : isIdentifier s = true ↔ Identifier s := by
  rw [Identifier, Pattern.mem_identifier, isIdentifier]
  cases s.toList with
  | nil => simp
  | cons c cs =>
    rw [Bool.and_eq_true, List.all_eq_true]
    constructor
    · rintro ⟨hc, hcs⟩
      exact ⟨c, Pattern.mem_letters.2 hc, cs, rfl, fun d hd => Pattern.mem_continuing.2 (hcs d hd)⟩
    · rintro ⟨d, hd, ds, heq, hds⟩
      cases heq
      exact ⟨Pattern.mem_letters.1 hd, fun e he => Pattern.mem_continuing.1 (hds e he)⟩

/-! ## What is well-formed -/

/-- The fields of a line are in order, each for itself. -/
structure GrantLine.Fields (l : GrantLine) : Prop where
  /-- The section is an identifier. -/
  area : Identifier l.area
  /-- A given item is empty or an identifier. -/
  item : ∀ item, l.item = some item → item = "" ∨ Identifier item
  /-- The action is an identifier. -/
  action : Identifier l.action
  /-- A given instance is not negative. -/
  itemId : ∀ id, l.itemId = some id → 0 ≤ id

/-- An instance other than 0 comes with an item that is not empty. -/
def GrantLine.Narrowed (l : GrantLine) : Prop :=
  ∀ id, l.itemId = some id → id ≠ 0 → ∃ item, l.item = some item ∧ item ≠ ""

/-- A line that stands in a well-formed scenario. -/
structure GrantLine.WellFormed (l : GrantLine) : Prop extends l.Fields where
  /-- Instances have items. -/
  narrowed : l.Narrowed

/-- A role that stands in a well-formed scenario. -/
structure RoleTemplate.WellFormed (t : RoleTemplate) : Prop where
  /-- The name has 1 to 128 characters. -/
  name : 1 ≤ t.name.length ∧ t.name.length ≤ 128
  /-- The lines are well-formed. -/
  lines : ∀ l ∈ t.lines, l.WellFormed

/-- The fields of a scenario are in order, nested ones included. -/
structure Scenario.Fields (s : Scenario) : Prop where
  /-- The name has 1 to 64 characters. -/
  name : 1 ≤ s.name.length ∧ s.name.length ≤ 64
  /-- The roles are in order, each for itself. -/
  roles : ∀ t ∈ s.roles, t.WellFormed

/-- A scenario that follows the grammar. -/
structure Scenario.WellFormed (s : Scenario) : Prop extends s.Fields where
  /-- The names of the roles are distinct. -/
  distinct : s.roles.Pairwise fun t t' => t.name ≠ t'.name

/-! ## What is broken, and where -/

/-- The fields of a line that break their rule. -/
inductive GrantLine.BreaksField (l : GrantLine) : Flaw → Prop
  /-- The section is no identifier. -/
  | area : ¬Identifier l.area → l.BreaksField (.area l.area)
  /-- The item is neither empty nor an identifier. -/
  | item {item : String} : l.item = some item → ¬(item = "" ∨ Identifier item) →
      l.BreaksField (.item item)
  /-- The action is no identifier. -/
  | action : ¬Identifier l.action → l.BreaksField (.action l.action)
  /-- The instance is negative. -/
  | negativeInstance {id : Int32} : l.itemId = some id → ¬0 ≤ id →
      l.BreaksField (.negativeInstance id)

/-- The rules that a line breaks. -/
inductive GrantLine.Breaks (l : GrantLine) : Flaw → Prop
  /-- A field breaks its rule. -/
  | field {f : Flaw} : l.BreaksField f → l.Breaks f
  /-- The fields are in order, but the item of an instance is missing. -/
  | instanceWithoutItem : l.Fields → ¬l.Narrowed → l.Breaks .instanceWithoutItem

/-- The rules for single lines and names that a scenario breaks. -/
inductive Scenario.BreaksField (s : Scenario) : Problem → Prop
  /-- The name of the scenario is empty or too long. -/
  | name : ¬(1 ≤ s.name.length ∧ s.name.length ≤ 64) →
      s.BreaksField ⟨none, none, .nameLength s.name 64⟩
  /-- The name of the role at an index is empty or too long. -/
  | roleName {i : Nat} {t : RoleTemplate} : s.roles[i]? = some t →
      ¬(1 ≤ t.name.length ∧ t.name.length ≤ 128) →
      s.BreaksField ⟨some i, none, .nameLength t.name 128⟩
  /-- A line breaks a rule, at its index in the role at its index. -/
  | line {i j : Nat} {t : RoleTemplate} {l : GrantLine} {f : Flaw} : s.roles[i]? = some t →
      t.lines[j]? = some l → l.Breaks f → s.BreaksField ⟨some i, some j, f⟩

/-- The rules that a scenario breaks. -/
inductive Scenario.Breaks (s : Scenario) : Problem → Prop
  /-- A name or a line breaks a rule. -/
  | field {p : Problem} : s.BreaksField p → s.Breaks p
  /-- Names and lines are in order, but a role is the first to have the name of an earlier one. -/
  | repeatedRole {before after : List RoleTemplate} {t : RoleTemplate} : s.Fields →
      s.roles = before ++ t :: after → (∃ t' ∈ before, t'.name = t.name) →
      (before.Pairwise fun u u' => u.name ≠ u'.name) → s.Breaks ⟨none, none, .repeatedRole t.name⟩

/-! ## Lines -/

theorem Flaw.mem_unless {ok : Bool} {f flaw : Flaw} :
    f ∈ Flaw.unless ok flaw ↔ ¬ok = true ∧ f = flaw := by
  cases ok <;> simp [Flaw.unless]

namespace GrantLine

variable {l : GrantLine}

theorem isItem_iff {item : String} : isItem item = true ↔ item = "" ∨ Identifier item := by
  rw [isItem, Bool.or_eq_true, String.isEmpty_iff, isIdentifier_iff]

/-- The flaws of fields are the rules for fields that the line breaks. -/
theorem mem_fieldFlaws {f : Flaw} : f ∈ l.fieldFlaws ↔ l.BreaksField f := by
  rw [fieldFlaws, List.mem_append, List.mem_append, List.mem_append, Flaw.mem_unless,
    Flaw.mem_unless, isIdentifier_iff, isIdentifier_iff]
  constructor
  · rintro (((⟨h, rfl⟩ | h) | h) | ⟨h, rfl⟩)
    · exact .action h
    · split at h
      · cases h
      · rename_i item hitem
        obtain ⟨hbroken, rfl⟩ := Flaw.mem_unless.1 h
        exact .item hitem (mt isItem_iff.2 hbroken)
    · split at h
      · cases h
      · rename_i id hid
        obtain ⟨hbroken, rfl⟩ := Flaw.mem_unless.1 h
        exact .negativeInstance hid (mt decide_eq_true hbroken)
    · exact .area h
  · rintro (h | ⟨hitem, h⟩ | h | ⟨hid, h⟩)
    · exact .inr ⟨h, rfl⟩
    · refine .inl (.inl (.inr ?_))
      rw [hitem]
      exact Flaw.mem_unless.2 ⟨mt isItem_iff.1 h, rfl⟩
    · exact .inl (.inl (.inl ⟨h, rfl⟩))
    · refine .inl (.inr ?_)
      rw [hid]
      exact Flaw.mem_unless.2 ⟨mt of_decide_eq_true h, rfl⟩

/-- No field breaks its rule exactly if all are in order. -/
theorem fields_iff : l.Fields ↔ ∀ f, ¬l.BreaksField f := by
  constructor
  · rintro h _ (h' | ⟨hitem, h'⟩ | h' | ⟨hid, h'⟩)
    · exact h' h.area
    · exact h' (h.item _ hitem)
    · exact h' h.action
    · exact h' (h.itemId _ hid)
  · intro h
    exact {
      area := Classical.not_not.1 fun h' => h _ (.area h')
      item := fun item hitem => Classical.not_not.1 fun h' => h _ (.item hitem h')
      action := Classical.not_not.1 fun h' => h _ (.action h')
      itemId := fun id hid => Classical.not_not.1 fun h' => h _ (.negativeInstance hid h') }

theorem fieldFlaws_eq_nil_iff : l.fieldFlaws = [] ↔ l.Fields := by
  rw [fields_iff, List.eq_nil_iff_forall_not_mem]
  exact forall_congr' fun f => not_congr mem_fieldFlaws

theorem instanceHasItem_iff : l.instanceHasItem = true ↔ l.Narrowed := by
  rw [instanceHasItem, Bool.or_eq_true, Option.isNone_iff_eq_none, instance?,
    Option.filter_eq_none_iff, Option.isSome_iff_exists, Narrowed]
  simp only [item?, Option.filter_eq_some_iff, decide_eq_true_eq]
  constructor
  · rintro (h | h) id hid hne
    · exact absurd hne (h id hid)
    · exact h
  · intro h
    by_cases hid : ∃ id, l.itemId = some id ∧ id ≠ 0
    · obtain ⟨id, hid, hne⟩ := hid
      exact .inr (h id hid hne)
    · exact .inl fun id hsome hne => hid ⟨id, hsome, hne⟩

/-- The flaws of a line are the rules it breaks. -/
theorem mem_flaws {f : Flaw} : f ∈ l.flaws ↔ l.Breaks f := by
  constructor
  · intro hf
    rw [flaws] at hf
    split at hf
    · rename_i hnil
      obtain ⟨hbroken, rfl⟩ := Flaw.mem_unless.1 hf
      exact .instanceWithoutItem (fieldFlaws_eq_nil_iff.1 hnil) (mt instanceHasItem_iff.2 hbroken)
    · exact .field (mem_fieldFlaws.1 hf)
  · rintro (hf | ⟨hfields, hbroken⟩)
    · have hmem := mem_fieldFlaws.2 hf
      rw [flaws]
      split
      · rename_i hnil
        exact absurd hmem (hnil ▸ List.not_mem_nil)
      · exact hmem
    · rw [flaws, fieldFlaws_eq_nil_iff.2 hfields]
      exact Flaw.mem_unless.2 ⟨mt instanceHasItem_iff.1 hbroken, rfl⟩

theorem mem_problems {p : Problem} : p ∈ l.problems ↔ ∃ f, l.Breaks f ∧ p = ⟨none, none, f⟩ := by
  simp only [problems, List.mem_map, mem_flaws, eq_comm]

theorem flaws_eq_nil_iff_wellFormed : l.flaws = [] ↔ l.WellFormed := by
  rw [flaws_eq_nil_iff, fieldFlaws_eq_nil_iff, instanceHasItem_iff]
  exact ⟨fun h => ⟨h.1, h.2⟩, fun h => ⟨h.toFields, h.narrowed⟩⟩

end GrantLine

/-! ## Roles and scenarios -/

theorem fits_iff {limit : Nat} {s : String} :
    fits limit s = true ↔ 1 ≤ s.length ∧ s.length ≤ limit := by
  rw [fits, Bool.and_eq_true, decide_eq_true_iff, decide_eq_true_iff]

/-- What is told about the entries of a list is told about one of them, at its index. -/
theorem mem_flatMap_zipIdx {α β : Type} {f : α × Nat → List β} {xs : List α} {b : β} :
    b ∈ xs.zipIdx.flatMap f ↔ ∃ i a, xs[i]? = some a ∧ b ∈ f (a, i) := by
  rw [List.mem_flatMap]
  constructor
  · rintro ⟨⟨a, i⟩, ha, hb⟩
    exact ⟨i, a, List.mk_mem_zipIdx_iff_getElem?.1 ha, hb⟩
  · rintro ⟨i, a, ha, hb⟩
    exact ⟨(a, i), List.mk_mem_zipIdx_iff_getElem?.2 ha, hb⟩

/-- The entry that is told is the first that has an equal before it. -/
theorem firstRepeated?_eq_some_iff {seen xs : List String} {x : String} :
    firstRepeated? seen xs = some x ↔ ∃ before after, xs = before ++ x :: after ∧
      (x ∈ seen ∨ x ∈ before) ∧ before.Nodup ∧ ∀ y ∈ before, y ∉ seen := by
  -- On the list; an entry that was passed counts as seen from then on.
  induction xs generalizing seen with
  | nil => simp [firstRepeated?]
  | cons y ys ih =>
    rw [firstRepeated?]
    constructor
    · intro h
      split at h
      · rename_i hy
        cases h
        exact ⟨[], ys, rfl, .inl hy, .nil, fun z hz => absurd hz List.not_mem_nil⟩
      · rename_i hy
        obtain ⟨before, after, rfl, hx, hnodup, hfresh⟩ := ih.1 h
        refine ⟨y :: before, after, rfl, ?_, List.nodup_cons.2 ⟨fun hmem => ?_, hnodup⟩, ?_⟩
        · grind
        · exact hfresh y hmem List.mem_cons_self
        · grind
    · rintro ⟨before, after, heq, hx, hnodup, hfresh⟩
      cases before with
      | nil =>
        cases heq
        rw [if_pos (hx.resolve_right List.not_mem_nil)]
      | cons z before =>
        cases heq
        rw [if_neg (hfresh _ List.mem_cons_self), ih]
        exact ⟨before, after, rfl, by grind, (List.nodup_cons.1 hnodup).2, by grind⟩

theorem RoleTemplate.inOrder_iff {t : RoleTemplate} : t.InOrder ↔ t.WellFormed := by
  rw [InOrder, fits_iff]
  simp only [GrantLine.flaws_eq_nil_iff_wellFormed]
  exact ⟨fun h => ⟨h.2, h.1⟩, fun h => ⟨h.lines, h.name⟩⟩

theorem RoleTemplate.mem_problems {i : Nat} {t : RoleTemplate} {p : Problem} :
    p ∈ t.problems i ↔
      (∃ j l f, t.lines[j]? = some l ∧ l.Breaks f ∧ p = ⟨some i, some j, f⟩) ∨
      ¬(1 ≤ t.name.length ∧ t.name.length ≤ 128) ∧ p = ⟨some i, none, .nameLength t.name 128⟩ := by
  rw [problems, List.mem_append, mem_flatMap_zipIdx]
  simp only [List.mem_map, GrantLine.mem_problems, Flaw.mem_unless, fits_iff]
  refine or_congr ⟨?_, ?_⟩ ⟨?_, ?_⟩
  · rintro ⟨j, l, hl, _, ⟨f, hf, rfl⟩, rfl⟩
    exact ⟨j, l, f, hl, hf, rfl⟩
  · rintro ⟨j, l, f, hl, hf, rfl⟩
    exact ⟨j, l, hl, _, ⟨f, hf, rfl⟩, rfl⟩
  · rintro ⟨f, ⟨hname, rfl⟩, rfl⟩
    exact ⟨hname, rfl⟩
  · rintro ⟨hname, rfl⟩
    exact ⟨_, ⟨hname, rfl⟩, rfl⟩

namespace Scenario

variable {s : Scenario}

theorem mem_fieldProblems {p : Problem} : p ∈ s.fieldProblems ↔ s.BreaksField p := by
  rw [fieldProblems, List.mem_append, mem_flatMap_zipIdx]
  simp only [List.mem_map, Flaw.mem_unless, fits_iff, RoleTemplate.mem_problems]
  constructor
  · rintro (⟨f, ⟨hname, rfl⟩, rfl⟩ | ⟨i, t, ht, ⟨j, l, f, hl, hf, rfl⟩ | ⟨hname, rfl⟩⟩)
    · exact .name hname
    · exact .line ht hl hf
    · exact .roleName ht hname
  · rintro (hname | ⟨ht, hname⟩ | ⟨ht, hl, hf⟩)
    · exact .inl ⟨_, ⟨hname, rfl⟩, rfl⟩
    · exact .inr ⟨_, _, ht, .inr ⟨hname, rfl⟩⟩
    · exact .inr ⟨_, _, ht, .inl ⟨_, _, _, hl, hf, rfl⟩⟩

theorem fieldProblems_eq_nil_iff_fields : s.fieldProblems = [] ↔ s.Fields := by
  rw [fieldProblems_eq_nil_iff, fits_iff]
  simp only [RoleTemplate.inOrder_iff]
  exact ⟨fun h => ⟨h.1, h.2⟩, fun h => ⟨h.name, h.roles⟩⟩

/-- The problem that is left when every field is in order: the first name that was there before. -/
theorem mem_problems_of_fields (hs : s.Fields) {p : Problem} :
    p ∈ s.problems ↔ ∃ before after t, s.roles = before ++ t :: after ∧
      (∃ t' ∈ before, t'.name = t.name) ∧ (before.Pairwise fun u u' => u.name ≠ u'.name) ∧
      p = ⟨none, none, .repeatedRole t.name⟩ := by
  have hlist : p ∈ s.problems ↔ ∃ name, firstRepeated? [] (s.roles.map (·.name)) = some name ∧
      p = ⟨none, none, .repeatedRole name⟩ := by
    rw [problems, fieldProblems_eq_nil_iff_fields.2 hs]
    dsimp only
    cases firstRepeated? [] (s.roles.map (·.name)) <;> simp
  rw [hlist]
  constructor
  · rintro ⟨name, hname, rfl⟩
    obtain ⟨_, _, hroles, hearlier, hnodup, -⟩ := firstRepeated?_eq_some_iff.1 hname
    obtain ⟨before, rest, hsplit, rfl, hrest⟩ := List.map_eq_append_iff.1 hroles
    obtain ⟨t, after, rfl, rfl, -⟩ := List.map_eq_cons_iff.1 hrest
    exact ⟨before, after, t, hsplit, List.mem_map.1 (hearlier.resolve_left List.not_mem_nil),
      List.pairwise_map.1 hnodup, rfl⟩
  · rintro ⟨before, after, t, hroles, hearlier, hnodup, rfl⟩
    refine ⟨t.name, firstRepeated?_eq_some_iff.2 ⟨before.map (·.name), after.map (·.name), ?_,
      .inr (List.mem_map.2 hearlier), List.pairwise_map.2 hnodup, fun _ _ => List.not_mem_nil⟩, rfl⟩
    rw [hroles, List.map_append, List.map_cons]

/-- The problems of a scenario are the rules it breaks. -/
theorem mem_problems {p : Problem} : p ∈ s.problems ↔ s.Breaks p := by
  -- Names are compared only where the fields are in order.
  by_cases hs : s.Fields
  · rw [mem_problems_of_fields hs]
    constructor
    · rintro ⟨before, after, t, hroles, hearlier, hnodup, rfl⟩
      exact .repeatedRole hs hroles hearlier hnodup
    · rintro (hp | ⟨-, hroles, hearlier, hnodup⟩)
      · have hmem := mem_fieldProblems.2 hp
        exact absurd hmem (fieldProblems_eq_nil_iff_fields.2 hs ▸ List.not_mem_nil)
      · exact ⟨_, _, _, hroles, hearlier, hnodup, rfl⟩
  · have hlist : s.problems = s.fieldProblems := by
      rw [problems]
      split
      · rename_i hnil
        exact absurd (fieldProblems_eq_nil_iff_fields.1 hnil) hs
      · rfl
    rw [hlist, mem_fieldProblems]
    exact ⟨.field, fun hp => by cases hp with
      | field hp => exact hp
      | repeatedRole hfields => exact absurd hfields hs⟩

theorem problems_eq_nil_iff_wellFormed : s.problems = [] ↔ s.WellFormed := by
  rw [problems_eq_nil_iff, fieldProblems_eq_nil_iff_fields, List.Nodup, List.pairwise_map]
  exact ⟨fun h => ⟨h.1, h.2⟩, fun h => ⟨h.toFields, h.distinct⟩⟩

theorem check_eq_error_iff {e : Error} :
    s.check = .error e ↔ s.problems ≠ [] ∧ e = .validation (.scenario s.name s.problems) := by
  rw [check]
  cases s.problems <;> simp [eq_comm]

end Scenario

/-- **The check passes exactly what follows the grammar.**  What it refuses it refuses with the list
of the rules that are broken, each in its place. -/
theorem check_follows_grammar (s : Scenario) :
    (s.check = .ok () ↔ s.WellFormed) ∧
    (∀ e, s.check = .error e ↔
      ¬s.WellFormed ∧ e = .validation (.scenario s.name s.problems)) ∧
    ∀ p, p ∈ s.problems ↔ s.Breaks p := by
  refine ⟨?_, fun e => ?_, fun p => Scenario.mem_problems⟩
  · rw [← Scenario.problems_eq_nil_iff_wellFormed, Scenario.check]
    cases s.problems <;> simp
  · rw [Scenario.check_eq_error_iff, Ne, Scenario.problems_eq_nil_iff_wellFormed]

end Gatehouse
