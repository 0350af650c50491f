import Gatehouse.Json.Reader
import Gatehouse.Json.Writer
import Gatehouse.Proofs.Decimal
import Mathlib.Data.List.TakeDrop
import Mathlib.Data.List.TakeWhile

/-!
# How far the reader of JSON gets

What characters make of the machine that reads JSON, lexeme by lexeme: integers of 64 bits and
strings are read back from what is written for them (`number?_intText`, `run_stringText_value`,
`run_stringText_key`), and blanks change nothing.

Since the machine takes one character at a time, a number or a word is not known to be over until
the next character comes, so after a value the machine may not be the one that the value was
delivered to.  `Machine.Reaches` leaves that aside: it speaks of the machine as it is once the
lexeme has come to its end, and `Reaches.append` is how two stretches of text are put together.
-/

set_option autoImplicit false

namespace Gatehouse

namespace Json

/-! ## Numbers -/

theorem le_ofDigitChars (cs : List Char) (value : Nat) : value ≤ Nat.ofDigitChars 10 cs value := by
  induction cs generalizing value with
  | nil => exact Nat.le_refl value
  | cons c cs ih =>
    rw [Nat.ofDigitChars_cons]
    exact Nat.le_trans (by omega) (ih _)

/-- Digits whose number fits 64 bits all go into it. -/
theorem takeDigits_eq {cs : List Char} {value : Nat} (taken : Nat)
    (h : Nat.ofDigitChars 10 cs value < powerOfTwo 64) :
    takeDigits value taken cs = (Nat.ofDigitChars 10 cs value, taken + cs.length, 0) := by
  induction cs generalizing value taken with
  | nil => rfl
  | cons c cs ih =>
    rw [Nat.ofDigitChars_cons] at h
    have hnext : 10 * value + (c.toNat - '0'.toNat) < powerOfTwo 64 :=
      Nat.lt_of_le_of_lt (le_ofDigitChars cs _) h
    rw [takeDigits, if_pos hnext, ih (taken + 1) h, Nat.ofDigitChars_cons, List.length_cons]
    congr 2
    omega

theorem takeDigits_natText {n : Nat} (h : n < powerOfTwo 64) :
    takeDigits 0 0 (natText n) = (n, (natText n).length, 0) := by
  rw [takeDigits_eq 0 (by rwa [ofDigitChars_natText]), ofDigitChars_natText, Nat.zero_add]

theorem isWholePart_natText (n : Nat) : isWholePart (natText n) = true := by
  by_cases hn : n = 0
  · rw [hn]
    rfl
  · unfold isWholePart
    split
    · rename_i h
      exact absurd h (natText_ne_nil n)
    · rfl
    · rename_i c cs _ h
      have hc : c ≠ '0' := by
        rintro rfl
        exact natText_ne_zero_cons hn cs h
      simpa using hc

theorem takeWhile_natText (n : Nat) : (natText n).takeWhile isDigit = natText n :=
  List.takeWhile_eq_self_iff.2 fun _ => isDigit_of_mem_natText

theorem dropWhile_natText (n : Nat) : (natText n).dropWhile isDigit = [] :=
  List.dropWhile_eq_nil_iff.2 fun _ => isDigit_of_mem_natText

/-- The integers that the reader keeps exactly: those of 64 bits, with a sign or without. -/
def IsWord (n : Int) : Prop := int64Low ≤ n ∧ n ≤ uint64High

theorem number?_natText {n : Nat} (h : n < powerOfTwo 64) :
    number? (natText n) = some (.int n) := by
  unfold number?
  split
  rename_i negative cs heq
  split at heq
  · rename_i hminus
    have hdigit : isDigit '-' = true := isDigit_of_mem_natText (n := n) (by simp [hminus])
    cases hdigit
  · cases heq
    simp [takeWhile_natText, dropWhile_natText, isWholePart_natText, takeDigits_natText h,
      exponentPart?]

theorem number?_minus_natText {n : Nat} (hpos : 0 < n) (h : n ≤ powerOfTwo 63) :
    number? ('-' :: natText n) = some (.int (-n)) := by
  have hlt : n < powerOfTwo 64 := Nat.lt_of_le_of_lt h (by decide)
  simp [number?, takeWhile_natText, dropWhile_natText, isWholePart_natText,
    takeDigits_natText hlt, exponentPart?, hpos, h]

/-- An integer of 64 bits is read back from its digits. -/
theorem number?_intText {n : Int} (h : IsWord n) : number? (intText n) = some (.int n) := by
  obtain ⟨hlow, hhigh⟩ := h
  cases n with
  | ofNat n =>
    refine number?_natText ?_
    have htwo : powerOfTwo 64 = 18446744073709551616 := by decide
    rw [uint64High, Int.ofNat_eq_natCast] at hhigh
    omega
  | negSucc n =>
    have htwo : powerOfTwo 63 = 9223372036854775808 := by decide
    rw [intText, number?_minus_natText n.succ_pos]
    · rfl
    · rw [int64Low] at hlow
      omega

namespace Machine

/-! ## Where a machine gets -/

theorem run_append (m : Machine) (cs ds : List Char) :
    m.run (cs ++ ds) = (m.run cs).bind fun m => m.run ds := by
  induction cs generalizing m with
  | nil => rfl
  | cons c cs ih =>
    rw [List.cons_append, run, run, Option.bind_assoc]
    congr 1
    funext m'
    exact ih m'

theorem run_cons_of_step {m m' : Machine} {c : Char} (h : m.step c = some m') (cs : List Char) :
    m.run (c :: cs) = m'.run cs := by rw [run, h, Option.bind_some]

theorem scan_of_deliver {stack : List Frame} {v : Json} {m : Machine}
    (h : deliver stack v = some m) : m.scan = .between := by
  unfold deliver at h
  split at h <;> cases h <;> rfl

/-- The machine once the number or word that it is in the middle of has come to its end. -/
def settled (m : Machine) : Option Machine :=
  match m.scan with
  | .between => some m
  | .number done => endNumber m done
  | .word done => endWord m done
  | _ => none

theorem settled_of_between {m : Machine} (h : m.scan = .between) : m.settled = some m := by
  rw [settled, h]

theorem scan_of_settled {m m' : Machine} (h : m.settled = some m') : m'.scan = .between := by
  unfold settled at h
  split at h
  · rename_i hscan
    cases h
    exact hscan
  · obtain ⟨v, -, hv⟩ := Option.bind_eq_some_iff.1 h
    exact scan_of_deliver hv
  · unfold endWord at h
    split at h
    · exact scan_of_deliver h
    · exact scan_of_deliver h
    · exact scan_of_deliver h
    · cases h
  · cases h

/-- The result of a machine is the value that it is finished with once it has settled. -/
theorem result_of_settled {m m' : Machine} {v : Json} (h : m.settled = some m')
    (hv : m'.phase = .finished v) : m.result = some v := by
  unfold settled at h
  unfold result
  cases hscan : m.scan <;> simp_all

/-- A number or word comes to its end before this character. -/
structure Breaks (c : Char) : Prop where
  /-- No number goes on with it. -/
  number : inNumber c = false
  /-- No word goes on with it. -/
  word : c.isAlpha = false

theorem breaks_of_isSpace {c : Char} (h : isSpace c = true) : Breaks c := by
  simp only [isSpace, Bool.or_eq_true, decide_eq_true_eq] at h
  rcases h with ((rfl | rfl) | rfl) | rfl <;> exact ⟨by decide, by decide⟩

/-- At such a character the machine goes on as it does once it has settled. -/
theorem step_of_settled {m m' : Machine} {c : Char} (h : m.settled = some m') (hc : Breaks c) :
    m.step c = m'.stepBetween c := by
  unfold settled at h
  unfold step
  split at h
  · rename_i hscan
    cases h
    rw [hscan]
  · rename_i done hscan
    rw [hscan]
    simp only [hc.number, Bool.false_eq_true, if_false, h, Option.bind_some]
  · rename_i done hscan
    rw [hscan]
    simp only [hc.word, Bool.false_eq_true, if_false, h, Option.bind_some]
  · cases h

/-- The characters lead to a machine that settles as this one. -/
def Reaches (m : Machine) (cs : List Char) (m' : Machine) : Prop :=
  ∃ w, m.run cs = some w ∧ w.settled = some m'

theorem Reaches.of_run {m m' : Machine} {cs : List Char} (h : m.run cs = some m')
    (hscan : m'.scan = .between) : Reaches m cs m' := ⟨m', h, settled_of_between hscan⟩

theorem Reaches.refl {m : Machine} (h : m.scan = .between) : Reaches m [] m := .of_run rfl h

theorem Reaches.of_step {m w m' : Machine} {c : Char} {cs : List Char} (h : m.step c = some w)
    (hcs : Reaches w cs m') : Reaches m (c :: cs) m' := by
  obtain ⟨w', hrun, hsettled⟩ := hcs
  exact ⟨w', by rw [run_cons_of_step h, hrun], hsettled⟩

theorem Reaches.scan_eq {m m' : Machine} {cs : List Char} (h : Reaches m cs m') :
    m'.scan = .between := by
  obtain ⟨w, -, hsettled⟩ := h
  exact scan_of_settled hsettled

/-- What comes after the end of a lexeme may be read by the machine as it has settled. -/
theorem Reaches.append {m w m' : Machine} {cs ds : List Char} {c : Char} (h : Reaches m cs w)
    (hc : Breaks c) (hds : Reaches w (c :: ds) m') : Reaches m (cs ++ c :: ds) m' := by
  obtain ⟨x, hrun, hsettled⟩ := h
  obtain ⟨y, hrun', hsettled'⟩ := hds
  refine ⟨y, ?_, hsettled'⟩
  have hstep : x.step c = w.step c := by
    rw [step_of_settled hsettled hc,
      step_of_settled (settled_of_between (scan_of_settled hsettled)) hc]
  rw [run_append, hrun, Option.bind_some, run, hstep]
  exact hrun'

/-! ## Blanks -/

/-- The characters mean nothing. -/
def Blank (cs : List Char) : Prop := ∀ c ∈ cs, isSpace c = true

theorem step_space {m : Machine} {c : Char} (hm : m.scan = .between) (hc : isSpace c = true) :
    m.step c = some m := by
  rw [step_of_settled (settled_of_between hm) (breaks_of_isSpace hc), stepBetween, if_pos hc]

theorem Reaches.blank {m m' : Machine} {gap cs : List Char} (hm : m.scan = .between)
    (hgap : Blank gap) (h : Reaches m cs m') : Reaches m (gap ++ cs) m' := by
  induction gap with
  | nil => exact h
  | cons c gap ih =>
    refine .of_step (step_space hm (hgap c List.mem_cons_self)) (ih fun d hd => ?_)
    exact hgap d (List.mem_cons_of_mem c hd)

/-- Blanks may come before what ends a lexeme. -/
theorem Reaches.append_blank {m w m' : Machine} {gap cs ds : List Char} {c : Char}
    (h : Reaches m cs w) (hgap : Blank gap) (hc : Breaks c) (hds : Reaches w (c :: ds) m') :
    Reaches m (cs ++ (gap ++ c :: ds)) m' := by
  have hrest : Reaches w (gap ++ c :: ds) m' := hds.blank h.scan_eq hgap
  cases gap with
  | nil => exact h.append hc hrest
  | cons d gap => exact h.append (breaks_of_isSpace (hgap d List.mem_cons_self)) hrest

/-! ## Strings -/

theorem hexValue?_hexDigit : ∀ n < 16, hexValue? (hexDigit n) = some n := by decide

theorem run_shortEscape {m : Machine} {done : List Char} {c e : Char} (hm : m.scan = .string done)
    (he : e ≠ 'u') (h : shortEscape? e = some c) :
    m.run ['\\', e] = some { m with scan := .string (c :: done) } := by
  have hslash : m.step '\\' = some { m with scan := .escape done } := by
    simp [step, hm]
  rw [run_cons_of_step hslash, run, step]
  simp [he, h, run]

/-- A control character is read back from its number. -/
theorem run_controlEscape {m : Machine} {done : List Char} {c : Char} (hm : m.scan = .string done)
    (hc : c.toNat < 32) :
    m.run ['\\', 'u', '0', '0', hexDigit (c.toNat / 16), hexDigit (c.toNat % 16)] =
      some { m with scan := .string (c :: done) } := by
  have hhigh : hexValue? (hexDigit (c.toNat / 16)) = some (c.toNat / 16) :=
    hexValue?_hexDigit _ (by omega)
  have hlow : hexValue? (hexDigit (c.toNat % 16)) = some (c.toNat % 16) :=
    hexValue?_hexDigit _ (by omega)
  have hzero : hexValue? '0' = some 0 := rfl
  have hvalue : 16 * (c.toNat / 16) + c.toNat % 16 = c.toNat := by omega
  have hlead : ¬ 0xd800 ≤ c.toNat := by omega
  have htrail : ¬ 0xdc00 ≤ c.toNat := by omega
  simp [run, step, hm, hzero, hhigh, hlow, hvalue, endNumbered, hlead, htrail]

/-- A character is read back from the way it is written in a string. -/
theorem run_escapedChar {m : Machine} {done : List Char} (hm : m.scan = .string done) (c : Char) :
    m.run (escapedChar c) = some { m with scan := .string (c :: done) } := by
  unfold escapedChar
  split_ifs with hquote hslash hn hr ht hb hf hcontrol
  · exact run_shortEscape hm (by decide) (by rw [hquote]; rfl)
  · exact run_shortEscape hm (by decide) (by rw [hslash]; rfl)
  · exact run_shortEscape hm (by decide) (by rw [hn]; rfl)
  · exact run_shortEscape hm (by decide) (by rw [hr]; rfl)
  · exact run_shortEscape hm (by decide) (by rw [ht]; rfl)
  · exact run_shortEscape hm (by decide) (by rw [hb]; rfl)
  · exact run_shortEscape hm (by decide) (by rw [hf]; rfl)
  · exact run_controlEscape hm hcontrol
  · simp [run, step, hm, hquote, hslash, hcontrol]

theorem run_escapedChars {m : Machine} {done : List Char} (hm : m.scan = .string done)
    (cs : List Char) :
    m.run (cs.flatMap escapedChar) = some { m with scan := .string (cs.reverse ++ done) } := by
  induction cs generalizing m done with
  | nil => rw [List.flatMap_nil, run, List.reverse_nil, List.nil_append, ← hm]
  | cons c cs ih =>
    rw [List.flatMap_cons, run_append, run_escapedChar hm, Option.bind_some, ih rfl,
      List.reverse_cons, List.append_assoc, List.singleton_append]

/-- A string is read up to its end. -/
theorem run_stringText {m w : Machine} {s : String} (hm : m.scan = .between)
    (hbegin : m.beginString = some { m with scan := .string [] })
    (hend : endString { m with scan := .string s.toList.reverse } s.toList.reverse = some w) :
    m.run (stringText s) = some w := by
  have hopen : m.step '"' = some { m with scan := .string [] } := by
    rw [step_of_settled (settled_of_between hm) ⟨by decide, by decide⟩, stepBetween,
      if_neg (by decide), if_pos rfl, hbegin]
  rw [stringText, List.cons_append, run_cons_of_step hopen, run_append, run_escapedChars rfl,
    Option.bind_some, List.append_nil, run, step]
  simp only [if_true, hend, Option.bind_some, run]

/-- Where a value may come a string is one. -/
theorem run_stringText_value {m w : Machine} {s : String} (hm : m.scan = .between)
    (hwants : m.wantsValue = true) (h : deliver m.stack (.text s) = some w) :
    m.run (stringText s) = some w := by
  obtain ⟨stack, phase, scan⟩ := m
  cases phase <;> cases hwants
  all_goals
    refine run_stringText hm rfl ?_
    simpa [endString] using h

/-- Where a key may come a string is one. -/
theorem run_stringText_key {m : Machine} {key : String} (hm : m.scan = .between)
    (hwants : m.phase = .firstKey ∨ m.phase = .key) :
    m.run (stringText key) = some { m with phase := .colon key } := by
  obtain ⟨stack, phase, scan⟩ := m
  obtain rfl : scan = .between := hm
  rcases hwants with rfl | rfl
  all_goals
    refine run_stringText rfl rfl ?_
    simp [endString]

end Machine

end Json

end Gatehouse
