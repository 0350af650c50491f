import Gatehouse.Text.Lowercase

/-!
# Lower case of the first code points

The lower-case mapping of Unicode is that of the alphabet below the letters with accents: its first
run maps the capitals from `A` to `Z`, and all others begin further up (`exists_lowercaseRuns_eq`).
So texts of such characters are lowered one character after another (`lowercase_eq_map`), and in any
text such a character leaves its lower-case form (`toLower_mem_lowercase`).
-/

set_option autoImplicit false

namespace Gatehouse

/-- The first run maps the alphabet; all others are about letters with accents or of other
alphabets. -/
theorem exists_lowercaseRuns_eq :
    ∃ rest, lowercaseRuns.toList = (0x41, 0x5a, 1, true, 0x20) :: rest ∧
      ∀ r ∈ rest, 0xc0 ≤ r.1 := by
  have hhead : lowercaseRuns.toList.head? = some (0x41, 0x5a, 1, true, 0x20) := by
    decide +kernel
  have hrest : (lowercaseRuns.toList.tail.all fun r => Nat.ble 0xc0 r.1) = true := by
    decide +kernel
  obtain ⟨rest, heq⟩ := List.head?_eq_some_iff.1 hhead
  rw [heq, List.tail_cons] at hrest
  exact ⟨rest, heq, fun r hr => Nat.le_of_ble_eq_true (List.all_eq_true.1 hrest r hr)⟩

/-- Of the runs that a character below the letters with accents may be in, only the first is
left. -/
theorem find?_lowercaseRuns {n : Nat} (h : n < 0xc0) {p : Nat × Nat × Nat × Bool × Nat → Bool}
    (hp : ∀ r, p r = true → r.1 ≤ n) :
    lowercaseRuns.find? p =
      if p (0x41, 0x5a, 1, true, 0x20) then some (0x41, 0x5a, 1, true, 0x20) else none := by
  obtain ⟨rest, hruns, hrest⟩ := exists_lowercaseRuns_eq
  have hnone : rest.find? p = none := by
    rw [List.find?_eq_none]
    intro r hr hpr
    have hfirst := hrest r hr
    have hlast := hp r hpr
    omega
  rw [← Array.find?_toList, hruns, List.find?_cons, hnone]
  cases p (0x41, 0x5a, 1, true, 0x20) <;> rfl

/-- Below the letters with accents, lower case is that of the alphabet. -/
theorem lowerChar_eq_toLower {c : Char} (h : c.toNat < 0xc0) : lowerChar c = c.toLower := by
  unfold lowerChar
  dsimp only
  rw [find?_lowercaseRuns h (by
    rintro ⟨first, last, step, up, distance⟩ hr
    simp only [Bool.and_eq_true, decide_eq_true_eq] at hr
    exact hr.1.1)]
  simp only [Nat.mod_one, beq_self_eq_true, Bool.and_true, Bool.and_eq_true, decide_eq_true_eq]
  by_cases hupper : 0x41 ≤ c.toNat ∧ c.toNat ≤ 0x5a
  · have hall : ∀ n < 0x5b, 0x41 ≤ n → Char.ofNat (n + 0x20) = (Char.ofNat n).toLower := by decide
    have hc := hall c.toNat (Nat.lt_succ_of_le hupper.2) hupper.1
    rw [Char.ofNat_toNat] at hc
    rw [if_pos hupper, ← hc]
  · have hval : ¬(c.val ≥ 'A'.val ∧ c.val ≤ 'Z'.val) := hupper
    have hlower : c.toLower = c := dif_neg hval
    rw [if_neg hupper, hlower]

theorem lowerFrom_cons {c : Char} (h : c.toNat < 0xc0) (before cs : List Char) :
    lowerFrom before (c :: cs) = c.toLower :: lowerFrom (c :: before) cs := by
  have hsigma : c ≠ 'Σ' := by
    rintro rfl
    exact absurd h (by decide)
  have hdot : c ≠ 'İ' := by
    rintro rfl
    exact absurd h (by decide)
  rw [lowerFrom, if_neg hsigma, if_neg hdot, lowerChar_eq_toLower h]
  rfl

theorem lowercase_eq_map {s : String} (h : (s.toList.all fun c => c.toNat < 0xc0) = true) :
    lowercase s = String.ofList (s.toList.map Char.toLower) := by
  rw [lowercase]
  congr 1
  generalize ([] : List Char) = before
  generalize s.toList = cs at h
  induction cs generalizing before with
  | nil => rfl
  | cons c cs ih =>
    rw [List.all_cons, Bool.and_eq_true, decide_eq_true_iff] at h
    obtain ⟨hc, hcs⟩ := h
    rw [lowerFrom_cons hc, List.map_cons, ih _ hcs]

theorem toLower_mem_lowercase {s : String} {c : Char} (h : c.toNat < 0xc0) (hc : c ∈ s.toList) :
    c.toLower ∈ (lowercase s).toList := by
  rw [lowercase, String.toList_ofList]
  generalize ([] : List Char) = before
  generalize s.toList = cs at hc
  induction cs generalizing before with
  | nil => cases hc
  | cons d cs ih =>
    rcases List.mem_cons.1 hc with rfl | hc
    · rw [lowerFrom_cons h]
      exact List.mem_cons_self
    · rw [lowerFrom]
      exact List.mem_append_right _ (ih (d :: before) hc)

end Gatehouse
