import Gatehouse.Environment.Basic
import Gatehouse.Proofs.Decimal
import Gatehouse.Proofs.Text.Lowercase
import Mathlib.Data.List.TakeDrop
import Mathlib.Data.List.TakeWhile

/-!
# What the values of variables are taken for

The value of a variable is a text, and `Environment.guess` takes it for a truth value, an integer or
another number where it looks like one.  Where a text is wanted after all, the value is written out
again (`Setting.toText`), and what comes out need not be what went in: `Arrives` says what it is and
`Stays` which texts are left as they are.

The readers of numbers accept nothing but numerals (`isNumeral`) and three words, so a text with a
slash, a colon or a point in it, such as an address or the path of a file, is safe if it has one
more character that is not of a numeral (`isBareText_of_mark`).
-/

set_option autoImplicit false

namespace Gatehouse

/-! ## Words for truth values -/

/-- The text is a word for a truth value, in letters of either case. -/
def IsTruthWord (text : String) : Prop := ∃ b, lowercase text = truthText b

theorem isTruthWord_iff {text : String} :
    IsTruthWord text ↔ lowercase text = "true" ∨ lowercase text = "false" := by
  simp [IsTruthWord, truthText, or_comm]

/-- Characters that a word for a truth value does not have in either case: those that numbers are
made of, and marks of addresses and paths. -/
def foreignChars : List Char := "0123456789nN/:.".toList

theorem mem_foreignChars_of_isDigit {c : Char} (h : isDigit c = true) : c ∈ foreignChars := by
  obtain ⟨hlow, hhigh⟩ := toNat_of_isDigit h
  have hall : ∀ n < 58, 48 ≤ n → Char.ofNat n ∈ foreignChars := by decide
  simpa [Char.ofNat_toNat] using hall c.toNat (Nat.lt_succ_of_le hhigh) hlow

theorem not_isTruthWord_of_mem {text : String} {c : Char} (hmem : c ∈ text.toList)
    (hc : c ∈ foreignChars) : ¬IsTruthWord text := by
  have hall : (foreignChars.all fun c =>
      c.toNat < 0xc0 ∧ c.toLower ∉ "true".toList ∧ c.toLower ∉ "false".toList) = true := by decide
  obtain ⟨hlow, htrue, hfalse⟩ := of_decide_eq_true (List.all_eq_true.1 hall c hc)
  have hlower := toLower_mem_lowercase hlow hmem
  rw [isTruthWord_iff]
  rintro (h | h)
  · exact htrue (h ▸ hlower)
  · exact hfalse (h ▸ hlower)

/-! ## Numerals -/

/-- A character of a number in decimal. -/
def isNumeral (c : Char) : Bool := isDigit c || c ∈ ['+', '-', '.', 'e', 'E']

theorem isNumeral_of_isDigit {c : Char} (h : isDigit c = true) : isNumeral c = true := by
  rw [isNumeral, h, Bool.true_or]

/-- The characters are those of a number, and there is a digit among them. -/
def Numeral (cs : List Char) : Prop :=
  (∀ c ∈ cs, isNumeral c = true) ∧ ∃ c ∈ cs, isDigit c = true

theorem Numeral.cons {c : Char} (hc : isNumeral c = true) {cs : List Char} (h : Numeral cs) :
    Numeral (c :: cs) := by
  obtain ⟨hall, d, hd, hdigit⟩ := h
  exact ⟨List.forall_mem_cons.2 ⟨hc, hall⟩, d, List.mem_cons_of_mem c hd, hdigit⟩

theorem isDigit_of_digitsFrom? {cs : List Char} {value n : Nat}
    (h : digitsFrom? value cs = some n) : ∀ c ∈ cs, isDigit c = true := by
  induction cs generalizing value with
  | nil => nofun
  | cons c cs ih =>
    obtain ⟨d, hd, hrest⟩ := Option.bind_eq_some_iff.1 h
    have hc : isDigit c = true := by
      rw [digitValue?, Option.ite_none_right_eq_some] at hd
      simpa [isDigit] using hd.1
    exact List.forall_mem_cons.2 ⟨hc, ih hrest⟩

theorem numeral_of_digits? {cs : List Char} {n : Nat} (h : digits? cs = some n) : Numeral cs := by
  cases cs with
  | nil => cases h
  | cons c cs =>
    have hdigits := isDigit_of_digitsFrom? h
    exact ⟨fun d hd => isNumeral_of_isDigit (hdigits d hd), c, List.mem_cons_self,
      hdigits c List.mem_cons_self⟩

theorem numeral_of_integer? {cs : List Char} {n : Int} (h : integer? cs = some n) :
    Numeral cs := by
  unfold integer? at h
  split at h
  · obtain ⟨m, hm, -⟩ := Option.map_eq_some_iff.1 h
    obtain ⟨k, hk, -⟩ := Option.bind_eq_some_iff.1 hm
    exact (numeral_of_digits? hk).cons (by decide)
  · obtain ⟨m, hm, -⟩ := Option.map_eq_some_iff.1 h
    exact (numeral_of_digits? hm).cons (by decide)
  · obtain ⟨m, hm, -⟩ := Option.map_eq_some_iff.1 h
    exact numeral_of_digits? hm

theorem spanDigits_eq {cs digits rest : List Char} (h : spanDigits cs = (digits, rest)) :
    cs = digits ++ rest ∧ ∀ c ∈ digits, isDigit c = true := by
  rw [spanDigits, List.span_eq_takeWhile_dropWhile, Prod.mk.injEq] at h
  obtain ⟨rfl, rfl⟩ := h
  exact ⟨List.takeWhile_append_dropWhile.symm, fun c hc => List.mem_takeWhile_imp hc⟩

/-- What stands after the digits: nothing or an exponent. -/
theorem isNumeral_of_exponent {tail : List Char} {p : Int}
    (h : (match tail with
      | [] => some 0
      | c :: rest => if c = 'e' ∨ c = 'E' then exponent? rest else none) = some p) :
    ∀ c ∈ tail, isNumeral c = true := by
  cases tail with
  | nil => nofun
  | cons c rest =>
    obtain ⟨hc, hrest⟩ := Option.ite_none_right_eq_some.1 h
    have hletter : isNumeral c = true := by
      rcases hc with rfl | rfl <;> decide
    exact ((numeral_of_integer? hrest).cons hletter).1

/-- Digits before and after a point, if there is one, and what stands after them. -/
theorem numeral_append {whole point fraction tail : List Char}
    (hwhole : ∀ c ∈ whole, isDigit c = true) (hpoint : ∀ c ∈ point, isNumeral c = true)
    (hfraction : ∀ c ∈ fraction, isDigit c = true) (htail : ∀ c ∈ tail, isNumeral c = true)
    (hne : whole ++ fraction ≠ []) : Numeral (whole ++ (point ++ (fraction ++ tail))) := by
  constructor
  · simp only [List.forall_mem_append]
    exact ⟨fun c hc => isNumeral_of_isDigit (hwhole c hc), hpoint,
      fun c hc => isNumeral_of_isDigit (hfraction c hc), htail⟩
  · obtain ⟨c, hc⟩ := List.exists_mem_of_ne_nil _ hne
    rcases List.mem_append.1 hc with h | h
    · exact ⟨c, by simp [h], hwhole c h⟩
    · exact ⟨c, by simp [h], hfraction c h⟩

theorem numeral_of_unsignedReal? {negative : Bool} {cs : List Char} {x : Binary64}
    (h : unsignedReal? negative cs = some x) : Numeral cs := by
  unfold unsignedReal? at h
  cases hw : spanDigits cs with
  | mk whole rest =>
    obtain ⟨rfl, hwhole⟩ := spanDigits_eq hw
    simp only [hw] at h
    split at h
    · rename_i rest
      cases hf : spanDigits rest with
      | mk fraction tail =>
        obtain ⟨rfl, hfraction⟩ := spanDigits_eq hf
        simp only [hf] at h
        obtain ⟨hne, h⟩ := Option.ite_none_left_eq_some.1 h
        obtain ⟨p, hp, -⟩ := Option.map_eq_some_iff.1 h
        have hpoint : ∀ c ∈ ['.'], isNumeral c = true := List.forall_mem_singleton.2 (by decide)
        exact numeral_append hwhole hpoint hfraction (isNumeral_of_exponent hp) hne
    · obtain ⟨hne, h⟩ := Option.ite_none_left_eq_some.1 h
      obtain ⟨p, hp, -⟩ := Option.map_eq_some_iff.1 h
      have hnil : ∀ {p : Char → Prop}, ∀ c ∈ [], p c := nofun
      exact numeral_append hwhole hnil hnil (isNumeral_of_exponent hp) hne

/-- The words that stand for numbers. -/
def numberWords : List String := ["inf", "infinity", "nan"]

theorem mem_of_wordReal? {negative : Bool} {cs : List Char} {x : Binary64}
    (h : wordReal? negative cs = some x) :
    String.ofList (cs.map Char.toLower) ∈ numberWords := by
  simp only [wordReal?, Bool.or_eq_true, decide_eq_true_eq] at h
  split at h
  · rename_i hword
    rcases hword with hword | hword <;> simp [hword, numberWords]
  · obtain ⟨hword, -⟩ := Option.ite_none_right_eq_some.1 h
    simp [hword, numberWords]

/-- What a text that stands for a number consists of, but for its sign. -/
theorem real?_eq_some {text : String} {x : Binary64} (h : real? text = some x) :
    ∃ cs, (text.toList = cs ∨ text.toList = '-' :: cs ∨ text.toList = '+' :: cs) ∧
      (String.ofList (cs.map Char.toLower) ∈ numberWords ∨ Numeral cs) := by
  unfold real? at h
  dsimp only at h
  -- The sign first, and for each the words before the digits.
  split at h
  all_goals split at h
  · exact ⟨_, .inr (.inl ‹_›), .inl (mem_of_wordReal? ‹_›)⟩
  · exact ⟨_, .inr (.inl ‹_›), .inr (numeral_of_unsignedReal? h)⟩
  · exact ⟨_, .inr (.inr ‹_›), .inl (mem_of_wordReal? ‹_›)⟩
  · exact ⟨_, .inr (.inr ‹_›), .inr (numeral_of_unsignedReal? h)⟩
  · exact ⟨_, .inl rfl, .inl (mem_of_wordReal? ‹_›)⟩
  · exact ⟨_, .inl rfl, .inr (numeral_of_unsignedReal? h)⟩

theorem eq_of_toLower_eq_n {c : Char} (h : c.toLower = 'n') : c = 'n' ∨ c = 'N' := by
  by_cases hupper : c.val ≥ 'A'.val ∧ c.val ≤ 'Z'.val
  · have hlower : c.toLower.val = c.val + ('a'.val - 'A'.val) := congrArg Char.val (dif_pos hupper)
    rw [h] at hlower
    have hval : c.val + ('a'.val - 'A'.val) = 'N'.val + ('a'.val - 'A'.val) := hlower.symm
    exact .inr (Char.ext ((UInt32.add_left_inj _).1 hval))
  · have hlower : c.toLower = c := dif_neg hupper
    exact .inl (hlower.symm.trans h)

/-- A text that stands for a number is no word for a truth value. -/
theorem not_isTruthWord_of_real? {text : String} {x : Binary64} (h : real? text = some x) :
    ¬IsTruthWord text := by
  obtain ⟨cs, htext, hcs⟩ := real?_eq_some h
  suffices hmem : ∃ c ∈ cs, c ∈ foreignChars by
    obtain ⟨c, hc, hforeign⟩ := hmem
    refine not_isTruthWord_of_mem (c := c) ?_ hforeign
    rcases htext with htext | htext | htext <;> simp [htext, hc]
  rcases hcs with hword | ⟨-, c, hc, hdigit⟩
  · have hn : 'n' ∈ cs.map Char.toLower := by
      rw [← String.toList_ofList (l := cs.map Char.toLower)]
      generalize String.ofList (cs.map Char.toLower) = word at hword
      revert word
      decide
    obtain ⟨c, hc, hlower⟩ := List.mem_map.1 hn
    refine ⟨c, hc, ?_⟩
    rcases eq_of_toLower_eq_n hlower with rfl | rfl <;> decide
  · exact ⟨c, hc, mem_foreignChars_of_isDigit hdigit⟩

/-- The marks of addresses and paths. -/
def marks : List Char := ['/', ':', '.']

/-- A text with a mark in it that stands for a number is a numeral. -/
theorem isNumeral_of_real? {text : String} {x : Binary64} (h : real? text = some x)
    (hmark : ∃ c ∈ text.toList, c ∈ marks) : ∀ c ∈ text.toList, isNumeral c = true := by
  obtain ⟨cs, htext, hcs⟩ := real?_eq_some h
  rcases hcs with hword | hnumeral
  · exfalso
    obtain ⟨c, hc, hmark⟩ := hmark
    have hall : (marks.all fun c => c ≠ '-' ∧ c ≠ '+' ∧
        ∀ word ∈ numberWords, c.toLower ∉ word.toList) = true := by decide
    obtain ⟨hminus, hplus, hout⟩ := of_decide_eq_true (List.all_eq_true.1 hall c hmark)
    have hcs : c ∈ cs := by
      rcases htext with htext | htext | htext <;> simpa [htext, hminus, hplus] using hc
    refine hout _ hword ?_
    rw [String.toList_ofList]
    exact List.mem_map_of_mem hcs
  · rcases htext with htext | htext | htext <;> rw [htext]
    · exact hnumeral.1
    · exact (hnumeral.cons (by decide)).1
    · exact (hnumeral.cons (by decide)).1

/-! ## What comes out -/

/-- The text stands for an integer of 64 bits. -/
def IsInt64 (text : String) (n : Int) : Prop :=
  integer? text.toList = some n ∧ int64Low ≤ n ∧ n ≤ int64High

theorem boundedInteger?_eq_some_iff {text : String} {n : Int} :
    boundedInteger? int64Low int64High text.toList = some n ↔ IsInt64 text n := by
  rw [boundedInteger?, Option.filter_eq_some_iff, IsInt64, Bool.and_eq_true, decide_eq_true_iff,
    decide_eq_true_iff]

theorem IsInt64.not_isTruthWord {text : String} {n : Int} (h : IsInt64 text n) :
    ¬IsTruthWord text := by
  obtain ⟨-, c, hc, hdigit⟩ := numeral_of_integer? h.1
  exact not_isTruthWord_of_mem hc (mem_foreignChars_of_isDigit hdigit)

/-- The text looks like nothing but a text. -/
structure IsBareText (text : String) : Prop where
  /-- It is no word for a truth value. -/
  not_truth : ¬IsTruthWord text
  /-- It stands for no integer. -/
  not_int : ∀ n, ¬IsInt64 text n
  /-- It stands for no other number. -/
  not_real : real? text = none

/-- What comes out where a text from the environment is wanted as a text. -/
inductive Arrives (text : String) : String → Prop
  /-- A word for a truth value comes in small letters. -/
  | truth (b : Bool) : lowercase text = truthText b → Arrives text (truthText b)
  /-- An integer of 64 bits comes with the fewest digits. -/
  | integer (n : Int) : IsInt64 text n → Arrives text (showInt n)
  /-- Any other number comes as the nearest one of the binary format, without an exponent. -/
  | number (x : Binary64) : (∀ n, ¬IsInt64 text n) → real? text = some x →
      Arrives text (String.ofList (x.text .plain))
  /-- Anything else comes as it is. -/
  | bare : IsBareText text → Arrives text text

/-- The texts that come out as they go in: what looks like nothing else, and what is written as the
value that it looks like would be. -/
inductive Stays (text : String) : Prop
  /-- A word for a truth value in small letters. -/
  | truth (b : Bool) : text = truthText b → Stays text
  /-- An integer of 64 bits with the fewest digits. -/
  | integer (n : Int) : int64Low ≤ n → n ≤ int64High → text = showInt n → Stays text
  /-- Another number in the digits of the binary format. -/
  | number (x : Binary64) : (∀ n, ¬IsInt64 text n) → real? text = some x →
      text = String.ofList (x.text .plain) → Stays text
  /-- Anything that looks like nothing else. -/
  | bare : IsBareText text → Stays text

section

variable {text shown : String} {origin : Option String}

theorem guess_eq_truth {b : Bool} (h : lowercase text = truthText b) :
    Environment.guess text = .truth b := by
  unfold Environment.guess
  cases b <;> simp [h, truthText]

theorem guess_eq_integer {n : Int} (h : IsInt64 text n) : Environment.guess text = .integer n := by
  have hword := h.not_isTruthWord
  rw [isTruthWord_iff, not_or] at hword
  simp only [Environment.guess, hword, if_false, boundedInteger?_eq_some_iff.2 h]

theorem guess_eq_of_not {x : Option Binary64} (hword : ¬IsTruthWord text)
    (hint : ∀ n, ¬IsInt64 text n) (hreal : real? text = x) :
    Environment.guess text = (x.map Scalar.number).getD (.text text) := by
  have hnone : boundedInteger? int64Low int64High text.toList = none :=
    Option.eq_none_iff_forall_ne_some.2 fun n hn => hint n (boundedInteger?_eq_some_iff.1 hn)
  rw [isTruthWord_iff, not_or] at hword
  simp only [Environment.guess, hword, if_false, hnone, hreal]

/-- This is what comes out where the value is read as a text. -/
theorem toText_guess (h : Arrives text shown) :
    Setting.toText (.scalar origin (Environment.guess text)) = .ok shown := by
  rcases h with ⟨b, hb⟩ | ⟨n, hn⟩ | ⟨x, hint, hreal⟩ | ⟨hword, hint, hreal⟩
  · rw [guess_eq_truth hb]
    rfl
  · rw [guess_eq_integer hn]
    rfl
  · rw [guess_eq_of_not (not_isTruthWord_of_real? hreal) hint hreal]
    rfl
  · rw [guess_eq_of_not hword hint hreal]
    rfl

/-- Whatever the text is, something comes out. -/
theorem exists_arrives (text : String) : ∃ shown, Arrives text shown := by
  by_cases hword : IsTruthWord text
  · obtain ⟨b, hb⟩ := hword
    exact ⟨_, .truth b hb⟩
  by_cases hint : ∃ n, IsInt64 text n
  · obtain ⟨n, hn⟩ := hint
    exact ⟨_, .integer n hn⟩
  rw [not_exists] at hint
  cases hreal : real? text with
  | some x => exact ⟨_, .number x hint hreal⟩
  | none => exact ⟨_, .bare ⟨hword, hint, hreal⟩⟩

/-- One text comes out. -/
theorem Arrives.unique {other : String} (h : Arrives text shown) (hother : Arrives text other) :
    shown = other := by
  have hshown : Setting.toText (.scalar none (Environment.guess text)) = .ok shown := toText_guess h
  rw [toText_guess hother] at hshown
  exact (Except.ok.inj hshown).symm

theorem arrives_self_iff : Arrives text text ↔ Stays text := by
  constructor
  · intro h
    obtain ⟨shown, hshown, h⟩ : ∃ shown, shown = text ∧ Arrives text shown := ⟨text, rfl, h⟩
    rcases h with ⟨b, -⟩ | ⟨n, -, hlow, hhigh⟩ | ⟨x, hint, hreal⟩ | hbare
    · exact .truth b hshown.symm
    · exact .integer n hlow hhigh hshown.symm
    · exact .number x hint hreal hshown.symm
    · exact .bare hbare
  · rintro (⟨b, rfl⟩ | ⟨n, hlow, hhigh, rfl⟩ | ⟨x, hint, hx, htext⟩ | h)
    · exact .truth b (by cases b <;> exact (lowercase_eq_map (by decide)).trans (by decide))
    · exact .integer n ⟨by rw [showInt, String.toList_ofList, integer?_intText], hlow, hhigh⟩
    · have h := Arrives.number x hint hx
      rwa [← htext] at h
    · exact .bare h

/-- A text with a mark stays, unless it is a numeral. -/
theorem isBareText_of_mark (hmark : ∃ c ∈ text.toList, c ∈ marks)
    (hother : ∃ c ∈ text.toList, isNumeral c = false) : IsBareText text := by
  obtain ⟨d, hd, hdother⟩ := hother
  have hnot : ¬∀ c ∈ text.toList, isNumeral c = true := fun h => by
    rw [h d hd] at hdother
    cases hdother
  refine ⟨?_, fun n hn => hnot (numeral_of_integer? hn.1).1, ?_⟩
  · obtain ⟨c, hc, hcmark⟩ := hmark
    have hall : (marks.all fun c => c ∈ foreignChars) = true := by decide
    exact not_isTruthWord_of_mem hc (of_decide_eq_true (List.all_eq_true.1 hall c hcmark))
  · cases hreal : real? text with
    | none => rfl
    | some x => exact absurd (isNumeral_of_real? hreal hmark) hnot

end

end Gatehouse
