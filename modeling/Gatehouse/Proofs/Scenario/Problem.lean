import Gatehouse.Scenario.Library

/-!
# Scenarios without problems

A scenario passes the check exactly when every field is in order, every line with an instance has
an item, and no two roles share a name.  The lemmas take the check apart level by level: a line, a
role, the fields of a scenario, the scenario.
-/

set_option autoImplicit false

namespace Gatehouse

/-- Whether nothing is told about any entry does not depend on where the entries stand. -/
theorem flatMap_zipIdx_eq_nil_iff {α β : Type} {f : α × Nat → List β} {P : α → Prop}
    (h : ∀ a i, f (a, i) = [] ↔ P a) (xs : List α) :
    xs.zipIdx.flatMap f = [] ↔ ∀ a ∈ xs, P a := by
  rw [List.flatMap_eq_nil_iff]
  constructor
  · intro hnil a ha
    obtain ⟨i, hi⟩ := List.mem_iff_getElem?.1 ha
    exact (h a i).1 (hnil _ (List.mk_mem_zipIdx_iff_getElem?.2 hi))
  · rintro hall ⟨a, i⟩ ha
    exact (h a i).2 (hall a (List.fst_mem_of_mem_zipIdx ha))

theorem Flaw.unless_eq_nil_iff {ok : Bool} {flaw : Flaw} :
    Flaw.unless ok flaw = [] ↔ ok = true := by
  cases ok <;> simp [Flaw.unless]

theorem GrantLine.flaws_eq_nil_iff {l : GrantLine} :
    l.flaws = [] ↔ l.fieldFlaws = [] ∧ l.instanceHasItem = true := by
  rw [flaws]
  split
  · rename_i h
    rw [Flaw.unless_eq_nil_iff, and_iff_right h]
  · rename_i h
    exact iff_of_false h fun hl => h hl.1

theorem GrantLine.problems_eq_nil_iff {l : GrantLine} : l.problems = [] ↔ l.flaws = [] := by
  rw [problems, List.map_eq_nil_iff]

/-- Every line of the template is in order, and so is its name. -/
def RoleTemplate.InOrder (t : RoleTemplate) : Prop :=
  (∀ l ∈ t.lines, l.flaws = []) ∧ fits roleNameLimit t.name = true

/-- In a template that is in order every instance comes with an item. -/
theorem RoleTemplate.InOrder.instanceHasItem {t : RoleTemplate} (h : t.InOrder) :
    ∀ l ∈ t.lines, l.instanceHasItem = true := fun l hl =>
  (GrantLine.flaws_eq_nil_iff.1 (h.1 l hl)).2

theorem RoleTemplate.problems_eq_nil_iff {i : Nat} {t : RoleTemplate} :
    t.problems i = [] ↔ t.InOrder := by
  rw [problems, List.append_eq_nil_iff, List.map_eq_nil_iff, Flaw.unless_eq_nil_iff, InOrder]
  exact and_congr_left' (flatMap_zipIdx_eq_nil_iff
    (fun l j => List.map_eq_nil_iff.trans GrantLine.problems_eq_nil_iff) t.lines)

namespace Scenario

theorem fieldProblems_eq_nil_iff {s : Scenario} :
    s.fieldProblems = [] ↔
      fits scenarioNameLimit s.name = true ∧ ∀ t ∈ s.roles, t.InOrder := by
  rw [fieldProblems, List.append_eq_nil_iff, List.map_eq_nil_iff, Flaw.unless_eq_nil_iff]
  exact and_congr_right'
    (flatMap_zipIdx_eq_nil_iff (fun t i => RoleTemplate.problems_eq_nil_iff) s.roles)

theorem problems_eq_nil_iff {s : Scenario} :
    s.problems = [] ↔ s.fieldProblems = [] ∧ (s.roles.map (·.name)).Nodup := by
  have hdistinct : firstRepeated? [] (s.roles.map (·.name)) = none ↔
      (s.roles.map (·.name)).Nodup := by
    rw [firstRepeated?_eq_none_iff]
    exact and_iff_left fun name _ => List.not_mem_nil
  rw [problems]
  split
  · rename_i h
    rw [and_iff_right h, ← hdistinct]
    cases firstRepeated? [] (s.roles.map (·.name)) <;> simp
  · rename_i h
    exact iff_of_false h fun hs => h hs.1

/-- The check passes exactly when every field is in order and the roles have distinct names. -/
theorem check_eq_ok_iff {s : Scenario} :
    s.check = .ok () ↔ fits scenarioNameLimit s.name = true ∧ (∀ t ∈ s.roles, t.InOrder) ∧
      (s.roles.map (·.name)).Nodup := by
  rw [← and_assoc, ← fieldProblems_eq_nil_iff, ← problems_eq_nil_iff, check]
  cases s.problems <;> simp

end Scenario

end Gatehouse
