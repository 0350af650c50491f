import Gatehouse.Proofs.Decimal
import Gatehouse.Proofs.Text
import Gatehouse.Stamp.Reader
import Mathlib.Algebra.Group.Nat.Defs

/-!
# Time stamps are read back

The reader of time stamps is lenient: it takes fields of fewer digits, blanks and other offsets than
the writer ever puts there.  Here it is followed over what the writer does put there, part by part:
a padded number is read as far as a field goes (`readNumber_paddedNat`), a year with its sign or
without, a fraction as the nanoseconds it was written for, and an offset of nothing, which moves no
moment (`takeOff_zero`).  So a stamp is read back from its text (`read_text`), in every year of the
calendar and in leap seconds.
-/

set_option autoImplicit false

namespace Gatehouse

/-! ## Padded numbers -/

theorem isDigit_of_mem_paddedNat {width n : Nat} {c : Char} (h : c ∈ paddedNat width n) :
    isDigit c = true := by
  rcases List.mem_append.1 h with h | h
  · obtain ⟨-, rfl⟩ := List.mem_replicate.1 h
    rfl
  · exact isDigit_of_mem_natText h

theorem ofDigitChars_paddedNat (width n : Nat) :
    Nat.ofDigitChars 10 (paddedNat width n) 0 = n := by
  rw [paddedNat, Nat.ofDigitChars_append, Nat.ofDigitChars_replicate_zero, Nat.mul_zero,
    ofDigitChars_natText]

theorem length_paddedNat {width n : Nat} (hwidth : 0 < width) (h : n < 10 ^ width) :
    (paddedNat width n).length = width := by
  have hlength : (natText n).length ≤ width :=
    (Nat.length_toDigits_le_iff (by decide) hwidth).2 h
  rw [paddedNat, List.length_append, List.length_replicate]
  omega

theorem exists_paddedNat_eq_cons (width n : Nat) :
    ∃ c cs, paddedNat width n = c :: cs ∧ isDigit c = true := by
  cases h : paddedNat width n with
  | nil => exact absurd (List.append_eq_nil_iff.1 h).2 (natText_ne_nil n)
  | cons c cs => exact ⟨c, cs, rfl, isDigit_of_mem_paddedNat (h ▸ List.mem_cons_self)⟩

theorem digits?_paddedNat (width n : Nat) : digits? (paddedNat width n) = some n := by
  obtain ⟨c, cs, h, -⟩ := exists_paddedNat_eq_cons width n
  rw [h, digits?, ← h, digitsFrom?_of_digits fun _ => isDigit_of_mem_paddedNat,
    ofDigitChars_paddedNat]

theorem not_isBlank_of_isDigit {c : Char} (h : isDigit c = true) : isBlank c = false := by
  have hrange := toNat_of_isDigit h
  simp [isBlank, blankRanges]
  omega

namespace Stamp

/-! ## Parts -/

theorem dropBlanks_paddedNat (width n : Nat) (rest : List Char) :
    dropBlanks (paddedNat width n ++ rest) = paddedNat width n ++ rest := by
  obtain ⟨c, cs, h, hc⟩ := exists_paddedNat_eq_cons width n
  rw [h, List.cons_append, dropBlanks,
    List.dropWhile_cons_of_neg (by simp [not_isBlank_of_isDigit hc])]

/-- A padded number is read as far as the reader may take digits: all of them, and no further. -/
theorem readNumber_paddedNat {limit width n : Nat} {rest : List Char} (hn : n ≤ fieldLimit)
    (hlimit : (paddedNat width n).length ≤ limit)
    (hends : Ends isDigit (rest.take (limit - (paddedNat width n).length))) :
    readNumber limit (paddedNat width n ++ rest) = .ok (n, rest) := by
  have hdigits : ((paddedNat width n ++ rest).take limit).takeWhile isDigit =
      paddedNat width n := by
    rw [List.take_append, List.take_of_length_le hlimit,
      takeWhile_append_of_ends (fun _ => isDigit_of_mem_paddedNat) hends]
  have hread := digits?_paddedNat width n
  have hdrop : (paddedNat width n ++ rest).drop (paddedNat width n).length = rest := List.drop_left
  obtain ⟨c, cs, h, -⟩ := exists_paddedNat_eq_cons width n
  rw [h, List.cons_append] at hdigits hdrop ⊢
  rw [h] at hread
  simp only [readNumber, hdigits, hread, if_pos hn, hdrop]

/-- A number of two digits between the bounds of a field. -/
theorem readField_paddedNat {low high n : Nat} (hlow : low ≤ n) (hhigh : n ≤ high)
    (hhigh' : high < 100) (rest : List Char) :
    readField low high (paddedNat 2 n ++ rest) = .ok (n, rest) := by
  have hlength : (paddedNat 2 n).length = 2 := length_paddedNat (by decide) (by omega)
  rw [readField, dropBlanks_paddedNat, readNumber_paddedNat (by rw [fieldLimit]; omega) hlength.le
    (by simp [hlength, ends_nil])]
  exact if_pos ⟨hlow, hhigh⟩

theorem readSeparator_cons {c : Char} (hc : isBlank c = false) (rest : List Char) :
    readSeparator c (c :: rest) = .ok ((), rest) := by
  rw [readSeparator, dropBlanks, List.dropWhile_cons_of_neg (by simp [hc])]
  exact if_pos rfl

theorem isBlank_minus : isBlank '-' = false := by decide

theorem isBlank_colon : isBlank ':' = false := by decide

/-- A year is read up to the character behind it, with its sign or without. -/
theorem readYear_yearText {year : Int} (hfirst : firstYear ≤ year) (hlast : year ≤ lastYear)
    {rest : List Char} (hrest : Ends isDigit rest) :
    readYear (yearText year ++ rest) = .ok (year, rest) := by
  rw [firstYear] at hfirst
  rw [lastYear] at hlast
  have hlimit : year.natAbs ≤ fieldLimit := by rw [fieldLimit]; omega
  have hsigned : readNumber (paddedNat 4 year.natAbs ++ rest).length
      (paddedNat 4 year.natAbs ++ rest) = .ok (year.natAbs, rest) :=
    readNumber_paddedNat hlimit (by simp) (hrest.take _)
  have hrange : int32Low ≤ year ∧ year ≤ int32High := by
    rw [int32Low, int32High]
    omega
  rw [yearText]
  split
  · have hlength : (paddedNat 4 year.toNat).length = 4 := length_paddedNat (by decide) (by omega)
    have hplain : readNumber 4 (paddedNat 4 year.toNat ++ rest) = .ok (year.toNat, rest) :=
      readNumber_paddedNat (by omega) hlength.le (by simp [hlength, ends_nil])
    have hyear : (year.toNat : Int) = year := by omega
    obtain ⟨c, cs, h, hc⟩ := exists_paddedNat_eq_cons 4 year.toNat
    have hsign : ∀ d ds, isDigit d = false → paddedNat 4 year.toNat ++ rest ≠ d :: ds := by
      intro d ds hd heq
      rw [h, List.cons_append] at heq
      obtain ⟨rfl, -⟩ := List.cons.inj heq
      simp [hc] at hd
    rw [readYear, dropBlanks_paddedNat]
    dsimp only
    split
    · rename_i heq
      exact absurd heq (hsign _ _ rfl)
    · rename_i heq
      exact absurd heq (hsign _ _ rfl)
    · rw [hplain]
      simp only [hyear]
  · by_cases hneg : year < 0
    · have hyear : -1 * (year.natAbs : Int) = year := by omega
      rw [if_pos hneg, readYear, List.cons_append, dropBlanks,
        List.dropWhile_cons_of_neg (by decide)]
      simp only [hsigned, hyear, if_pos hrange]
    · have hyear : 1 * (year.natAbs : Int) = year := by omega
      rw [if_neg hneg, readYear, List.cons_append, dropBlanks,
        List.dropWhile_cons_of_neg (by decide)]
      simp only [hsigned, hyear, if_pos hrange]

theorem readFraction_paddedNat {width n : Nat} (hwidth : 0 < width) (hwidth' : width ≤ 9)
    (hn : n < 10 ^ width) {rest : List Char} (hrest : Ends isDigit rest) :
    readFraction ('.' :: paddedNat width n ++ rest) =
      .ok (n * powerOfTen (9 - width), rest) := by
  have hlength : (paddedNat width n).length = width := length_paddedNat hwidth hn
  have hpow : 10 ^ width ≤ 10 ^ 9 := Nat.pow_le_pow_right (by decide) hwidth'
  have hread : readNumber 9 (paddedNat width n ++ rest) = .ok (n, rest) :=
    readNumber_paddedNat (by rw [fieldLimit]; omega) (by omega) (hrest.take _)
  have hdrop : rest.dropWhile isDigit = rest := dropWhile_append_of_ends (v := []) nofun hrest
  rw [List.cons_append, readFraction, hread]
  simp only [List.length_append, hlength, Nat.add_sub_cancel, hdrop]

/-- A fraction is read as the nanoseconds it was written for. -/
theorem readFraction_fractionText {nano : Nat} (h : nano < 1000000000) :
    readFraction (fractionText nano ++ ['Z']) = .ok (nano, ['Z']) := by
  have hmark : Ends isDigit ['Z'] := ends_cons rfl []
  rw [fractionText]
  split
  · rename_i hzero
    rw [hzero]
    rfl
  split
  · have hnano : nano / 1000000 * powerOfTen 6 = nano := by
      rw [show powerOfTen 6 = 1000000 by decide]
      omega
    rw [readFraction_paddedNat (by decide) (by decide) (by omega) hmark, hnano]
  split
  · have hnano : nano / 1000 * powerOfTen 3 = nano := by
      rw [show powerOfTen 3 = 1000 by decide]
      omega
    rw [readFraction_paddedNat (by decide) (by decide) (by omega) hmark, hnano]
  · have hnano : nano * powerOfTen 0 = nano := Nat.mul_one nano
    rw [readFraction_paddedNat (by decide) (by decide) (by omega) hmark, hnano]

/-! ## Whole stamps -/

/-- The parts of a stamp are in their ranges. -/
structure InRange (t : Stamp) : Prop where
  /-- The year is one of the calendar. -/
  year : firstYear ≤ t.year ∧ t.year ≤ lastYear
  /-- There are twelve months. -/
  month : 1 ≤ t.month ∧ t.month ≤ 12
  /-- No month has more than 31 days. -/
  day : 1 ≤ t.day ∧ t.day ≤ 31
  /-- There are 24 hours. -/
  hour : t.hour ≤ 23
  /-- There are 60 minutes. -/
  minute : t.minute ≤ 59
  /-- There are 60 seconds and leap seconds. -/
  second : t.second ≤ 60
  /-- The fraction is less than a second. -/
  nano : t.nano < 1000000000

theorem daysInMonth_le (year : Int) (month : Nat) : daysInMonth year month ≤ 31 := by
  rw [daysInMonth]
  split_ifs <;> omega

theorem inRange (t : Stamp) : t.InRange := by
  have h := t.moment
  have hdays := daysInMonth_le t.year t.month
  simp only [isMoment, Bool.and_eq_true, decide_eq_true_eq] at h
  obtain ⟨⟨⟨⟨⟨⟨⟨⟨⟨hfirst, hlast⟩, hmonth⟩, hmonth'⟩, hday⟩, hday'⟩, hhour⟩, hminute⟩, hsecond⟩,
    hnano⟩ := h
  exact ⟨⟨hfirst, hlast⟩, ⟨hmonth, hmonth'⟩, ⟨hday, hday'.trans hdays⟩, by omega, by omega,
    hsecond, hnano⟩

theorem of?_parts (t : Stamp) :
    of? t.year t.month t.day t.hour t.minute t.second t.nano = some t := by
  rw [of?, dif_pos t.moment]

/-- A moment of universal time stays what it is. -/
theorem takeOff_zero (t : Stamp) : takeOff 0 t = .ok t := by
  have hhour := t.inRange.hour
  have hminute := t.inRange.minute
  obtain ⟨minutes, hminutes⟩ : ∃ m, t.hour * 60 + t.minute = m := ⟨_, rfl⟩
  have hlow : ¬(minutes : Int) < 0 := by omega
  have hhigh : ¬1440 ≤ (minutes : Int) := by omega
  have hday : ((minutes : Int) % 1440).toNat = minutes := by omega
  have hhour' : minutes / 60 = t.hour := by omega
  have hminute' : minutes % 60 = t.minute := by omega
  unfold takeOff
  simp only [hminutes, Int.sub_zero]
  simp only [if_neg hlow, if_neg hhigh, hday, hhour', hminute', of?_parts]

/-- A time stamp is read back from its text. -/
theorem read_text (t : Stamp) : read t.text = .ok t := by
  obtain ⟨⟨hfirst, hlast⟩, ⟨hmonth, hmonth'⟩, ⟨hday, hday'⟩, hhour, hminute, hsecond, hnano⟩ :=
    t.inRange
  have hyear : ∀ cs, readYear (yearText t.year ++ '-' :: cs) = .ok (t.year, '-' :: cs) := fun cs =>
    readYear_yearText hfirst hlast (ends_cons rfl cs)
  have hmark : ∀ cs, readTimeMark ('T' :: cs) = .ok ((), cs) := fun cs => rfl
  have hoffset : readOffset (dropBlanks ['Z']) = .ok (0, []) := by decide
  simp only [read, text, String.toList_ofList, chars, List.append_assoc, List.cons_append, hyear,
    bind, Except.bind, readSeparator_cons isBlank_minus, readSeparator_cons isBlank_colon,
    readField_paddedNat hmonth hmonth' (by decide), readField_paddedNat hday hday' (by decide),
    hmark, readField_paddedNat (Nat.zero_le _) hhour (by decide),
    readField_paddedNat (Nat.zero_le _) hminute (by decide),
    readField_paddedNat (Nat.zero_le _) hsecond (by decide), readFraction_fractionText hnano,
    hoffset, of?_parts, takeOff_zero]
  rfl

/-- The last moment of the calendar is in a leap second, of a year that has a sign. -/
example : read "+262142-12-31T23:59:60.999999999Z" = .ok last := by decide +kernel

end Stamp
end Gatehouse
