import Gatehouse.Setting.Path

/-!
# What writing at a path leaves

Settings are written one after another into one tree, each at a path of its own, and a later one may
take the place of an earlier one, of a whole that the earlier one is part of, or make a list of it.
What stands at a path of names (`Setting.at?`) is what was written there last, as long as nothing
after it is written at a path that displaces it (`displaces`): at the path itself, above it, or at
an index where the path has a name.  A path that parts from it at a name changes nothing, and one
that goes on behind it turns what stands there into a table or a list (`Kept.put`).
-/

set_option autoImplicit false

namespace Gatehouse

namespace Setting

/-! ## What stands at a path of names -/

/-- What stands at a path of names. -/
def at? : List String → Setting → Option Setting
  | [], s => some s
  | n :: q, s => (s.membersOf.lookup n).bind (at? q)

/-- The setting is a single value. -/
def isSingle : Setting → Bool
  | .scalar _ _ => true
  | _ => false

theorem lookup_changeMember (n m : String) (f : Setting → Setting) (ms : List (String × Setting)) :
    (changeMember n f ms).lookup m =
      if m = n then some (f ((ms.lookup n).getD (.scalar none .nothing))) else ms.lookup m := by
  have hbeq : ∀ {k : String}, m ≠ k → (m == k) = false := fun h => beq_eq_false_iff_ne.2 h
  induction ms with
  | nil =>
    by_cases h : m = n
    · simp [changeMember, h]
    · simp [changeMember, h, List.lookup_cons, hbeq h]
  | cons x ms ih =>
    obtain ⟨k, v⟩ := x
    by_cases hk : k = n
    · subst hk
      by_cases h : m = k
      · simp [changeMember, h]
      · simp [changeMember, h, List.lookup_cons, hbeq h]
    · have hk' : (n == k) = false := beq_eq_false_iff_ne.2 fun h => hk h.symm
      by_cases h : m = k
      · subst h
        simp [changeMember, hk]
      · simp [changeMember, hk, List.lookup_cons, ih, hbeq h, hk']

/-- Changing a member changes what stands behind its name, and nothing else. -/
theorem at?_change_name (n m : String) (p : List Step) (q : List String) (f : Setting → Setting)
    (s : Setting) :
    at? (m :: q) (change f (.name n :: p) s) =
      if m = n then at? q (change f p ((s.membersOf.lookup n).getD (.scalar none .nothing)))
      else at? (m :: q) s := by
  rw [change, at?, membersOf, lookup_changeMember]
  split
  · rfl
  · rfl

/-- A single value that is written stands there. -/
theorem at?_put_self (q : List String) (s : Setting) (origin : Option String) (x : Scalar) :
    at? q (s.put (q.map .name) (.scalar origin x)) = some (.scalar origin x) := by
  rw [put]
  induction q generalizing s with
  | nil => rfl
  | cons n q ih => rw [List.map_cons, at?_change_name, if_pos rfl, ih]

/-! ## What is displaced -/

/-- Whether a value written at a path takes the place of what stands at a path of names. -/
def displaces : List Step → List String → Bool
  | [], _ => true
  | .name n :: p, m :: q => n == m && displaces p q
  | .index _ :: _, _ :: _ => true
  | _ :: _, [] => false

/-- Either the value still stands there, or something that is no single value does. -/
def Kept (q : List String) (v : Setting) (s : Setting) : Prop :=
  ∃ w, at? q s = some w ∧ (w = v ∨ w.isSingle = false)

/-- Behind the end of a path nothing is written but parts of tables and lists. -/
theorem isSingle_change_of_ne_nil {p : List Step} (hp : p ≠ []) (f : Setting → Setting)
    (s : Setting) : (change f p s).isSingle = false := by
  cases p with
  | nil => exact absurd rfl hp
  | cons step p =>
    cases step with
    | name n => rfl
    | index i =>
      simp only [change]
      split <;> rfl

/-- Writing at a path that does not displace what stands at another one leaves it. -/
theorem Kept.change {q : List String} {v s : Setting} (h : Kept q v s) {p : List Step}
    (hp : displaces p q = false) (f : Setting → Setting) : Kept q v (change f p s) := by
  induction q generalizing p s with
  | nil =>
    have hne : p ≠ [] := by
      rintro rfl
      cases hp
    exact ⟨_, rfl, .inr (isSingle_change_of_ne_nil hne f s)⟩
  | cons m q ih =>
    obtain ⟨w, hw, hwv⟩ := h
    obtain ⟨t, ht, htw⟩ := Option.bind_eq_some_iff.1 hw
    cases p with
    | nil => cases hp
    | cons step p =>
      cases step with
      | index i => cases hp
      | name n =>
        by_cases hn : m = n
        · subst hn
          have hp' : displaces p q = false := by simpa [displaces] using hp
          obtain ⟨w', hw', hwv'⟩ := ih ⟨w, htw, hwv⟩ hp'
          refine ⟨w', ?_, hwv'⟩
          rw [at?_change_name, if_pos rfl, ht, Option.getD_some, hw']
        · refine ⟨w, ?_, hwv⟩
          rw [at?_change_name, if_neg hn, hw]

theorem Kept.put {q : List String} {v s : Setting} (h : Kept q v s) {p : List Step}
    (hp : displaces p q = false) (value : Setting) : Kept q v (s.put p value) :=
  h.change hp _

/-- A value stands once it is written, if whatever else is written does not displace it. -/
theorem kept_putAll {q : List String} {origin : Option String} {x : Scalar} {key : String}
    (hkey : pathOf key = q.map .name) {ms : List (String × Setting)}
    (hms : ∀ m ∈ ms, m = (key, .scalar origin x) ∨ displaces (pathOf m.1) q = false) {s : Setting}
    (h : (key, .scalar origin x) ∈ ms ∨ Kept q (.scalar origin x) s) :
    Kept q (.scalar origin x) (s.putAll ms) := by
  rw [putAll]
  induction ms generalizing s with
  | nil => exact h.resolve_left List.not_mem_nil
  | cons m ms ih =>
    obtain ⟨hm, hms⟩ := List.forall_mem_cons.1 hms
    have hput : Kept q (.scalar origin x) (s.put (pathOf key) (.scalar origin x)) :=
      ⟨_, hkey ▸ at?_put_self q s origin x, .inl rfl⟩
    refine ih hms ?_
    rcases hm with rfl | hm
    · exact .inr hput
    · rcases h with h | h
      · rcases List.mem_cons.1 h with rfl | h
        · exact .inr hput
        · exact .inl h
      · exact .inr (h.put hm m.2)

end Setting

end Gatehouse
