import Gatehouse.Id

/-!
# Integers in decimal, written and read back

A number written with the fewest digits is read back by the readers of integers, so it is known by
its digits (`readInt32_showInt32`).  The readers of larger formats take digits in their own way and
only need to know of what is written that it consists of digits (`isDigit_of_mem_natText`), and that
none but zero starts with a zero (`natText_ne_zero_cons`).
-/

set_option autoImplicit false

namespace Gatehouse

/-! ## Digits -/

theorem toNat_of_isDigit {c : Char} (h : isDigit c = true) : 48 ≤ c.toNat ∧ c.toNat ≤ 57 := by
  simpa [isDigit, Char.le_def, UInt32.le_iff_toNat_le] using h

theorem isDigit_of_mem_natText {n : Nat} {c : Char} (h : c ∈ natText n) : isDigit c = true :=
  Nat.isDigit_of_mem_toDigits (by decide) (by decide) h

theorem natText_ne_nil (n : Nat) : natText n ≠ [] := Nat.toDigits_ne_nil

/-- A number other than zero does not start with a zero. -/
theorem natText_ne_zero_cons {n : Nat} (h : n ≠ 0) (cs : List Char) : natText n ≠ '0' :: cs := by
  induction n using Nat.strongRecOn generalizing cs with
  | ind n ih =>
    rw [natText, Nat.toDigits_eq_if (by decide)]
    split
    · simp [h]
    · -- The first digit is that of the number without its last one.
      have hpos : n / 10 ≠ 0 := by omega
      intro heq
      cases hd : Nat.toDigits 10 (n / 10) with
      | nil => exact Nat.toDigits_ne_nil hd
      | cons c rest =>
        rw [hd, List.cons_append, List.cons.injEq] at heq
        exact ih (n / 10) (by omega) hpos rest (hd.trans (by rw [heq.1]))

/-! ## Reading -/

theorem digitValue?_of_isDigit {c : Char} (h : isDigit c = true) :
    digitValue? c = some (c.toNat - '0'.toNat) := by
  have hc : '0' ≤ c ∧ c ≤ '9' := by simpa [isDigit] using h
  rw [digitValue?, if_pos hc]

/-- Digits are read as the number that they make together. -/
theorem digitsFrom?_of_digits {cs : List Char} (h : ∀ c ∈ cs, isDigit c = true) (value : Nat) :
    digitsFrom? value cs = some (Nat.ofDigitChars 10 cs value) := by
  induction cs generalizing value with
  | nil => rfl
  | cons c cs ih =>
    rw [digitsFrom?, digitValue?_of_isDigit (h c List.mem_cons_self), Option.bind_some,
      ih fun d hd => h d (List.mem_cons_of_mem c hd), Nat.ofDigitChars_cons]

theorem ofDigitChars_natText (n : Nat) : Nat.ofDigitChars 10 (natText n) 0 = n :=
  Nat.ofDigitChars_toDigits (by decide) (by decide)

theorem digits?_natText (n : Nat) : digits? (natText n) = some n := by
  cases h : natText n with
  | nil => exact absurd h (natText_ne_nil n)
  | cons c cs =>
    rw [digits?, ← h, digitsFrom?_of_digits fun _ => isDigit_of_mem_natText, ofDigitChars_natText]

/-- Digits without a sign are read as a number. -/
theorem integer?_of_isDigit {c : Char} (h : isDigit c = true) (cs : List Char) :
    integer? (c :: cs) = (digits? (c :: cs)).map Int.ofNat := by
  unfold integer?
  split
  · rename_i heq
    obtain ⟨rfl, -⟩ := List.cons.inj heq
    cases h
  · rename_i heq
    obtain ⟨rfl, -⟩ := List.cons.inj heq
    cases h
  · rfl

/-- An integer is read back from its digits. -/
theorem integer?_intText (n : Int) : integer? (intText n) = some n := by
  cases n with
  | ofNat n =>
    rw [intText]
    cases h : natText n with
    | nil => exact absurd h (natText_ne_nil n)
    | cons c cs =>
      have hc : isDigit c = true := isDigit_of_mem_natText (n := n) (by simp [h])
      rw [integer?_of_isDigit hc, ← h, digits?_natText, Option.map_some]
  | negSucc n =>
    rw [intText, integer?, digits?_natText]
    rfl

theorem readInt32_showInt32 (n : Int32) : readInt32 (showInt32 n) = some n := by
  rw [readInt32, showInt32, showInt, String.toList_ofList, integer?_intText, Option.bind_some,
    int32?_toInt]

/-- Two numbers of 32 bits with the same digits are one number. -/
theorem showInt32_inj {n m : Int32} : showInt32 n = showInt32 m ↔ n = m := by
  constructor
  · intro h
    have hread := readInt32_showInt32 n
    rw [h, readInt32_showInt32] at hread
    exact (Option.some.inj hread).symm
  · rintro rfl
    rfl

theorem showInt32_ne_empty (n : Int32) : showInt32 n ≠ "" := by
  intro h
  have hread := readInt32_showInt32 n
  rw [h] at hread
  cases hread

end Gatehouse
