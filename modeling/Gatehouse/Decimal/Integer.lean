/-!
# Integers in decimal

Writing an integer with the fewest digits, and reading one: an optional sign, then digits and
nothing else.  The readers take the bounds of the integer that is wanted and refuse what lies
outside, so that a number too large for its field is never cut.
-/

set_option autoImplicit false

namespace Gatehouse

/-- The value of an ASCII digit. -/
def digitValue? (c : Char) : Option Nat :=
  if '0' ≤ c ∧ c ≤ '9' then some (c.toNat - '0'.toNat) else none

/-- The character is an ASCII digit. -/
def isDigit (c : Char) : Bool := '0' ≤ c && c ≤ '9'

/-- The number that a list of digits stands for, after the digits whose number is `value`. -/
def digitsFrom? (value : Nat) : List Char → Option Nat
  | [] => some value
  | c :: cs => (digitValue? c).bind fun d => digitsFrom? (10 * value + d) cs

/-- The number that a nonempty list of digits stands for. -/
def digits? : List Char → Option Nat
  | [] => none
  | c :: cs => digitsFrom? 0 (c :: cs)

/-- The integer that a text stands for: digits, with a sign before them or not. -/
def integer? : List Char → Option Int
  | '-' :: cs => (digits? cs).map fun n => -(n : Int)
  | '+' :: cs => (digits? cs).map Int.ofNat
  | cs => (digits? cs).map Int.ofNat

/-- The integer between `low` and `high` that a text stands for. -/
def boundedInteger? (low high : Int) (cs : List Char) : Option Int :=
  (integer? cs).filter fun n => low ≤ n && n ≤ high

/-- The least and the greatest integer of 32 bits. -/
def int32Low : Int := -2147483648

@[inherit_doc int32Low] def int32High : Int := 2147483647

/-- The least and the greatest integer of 64 bits. -/
def int64Low : Int := -9223372036854775808

@[inherit_doc int64Low] def int64High : Int := 9223372036854775807

/-- The greatest unsigned integer of 64 bits. -/
def uint64High : Int := 18446744073709551615

/-- The greatest unsigned integer of 32 bits. -/
def uint32High : Int := 4294967295

/-- The integer of 32 bits with this value, if there is one. -/
def int32? (n : Int) : Option Int32 :=
  if int32Low ≤ n ∧ n ≤ int32High then some (Int32.ofInt n) else none

/-- The integer of 32 bits that a text stands for. -/
def readInt32 (s : String) : Option Int32 := (integer? s.toList).bind int32?

/-- The digits of a natural number. -/
def natText (n : Nat) : List Char := Nat.toDigits 10 n

/-- An integer with the fewest digits, a minus before them if it is negative. -/
def intText : Int → List Char
  | .ofNat n => natText n
  | .negSucc n => '-' :: natText (n + 1)

/-- An integer as a string. -/
def showInt (n : Int) : String := String.ofList (intText n)

/-- A natural number as a string. -/
def showNat (n : Nat) : String := String.ofList (natText n)

/-- A natural number with at least `width` digits. -/
def paddedNat (width n : Nat) : List Char :=
  let digits := natText n
  List.replicate (width - digits.length) '0' ++ digits

@[simp] theorem int32?_toInt (x : Int32) : int32? x.toInt = some x := by
  have h1 := x.le_toInt
  have h2 := x.toInt_lt
  have : int32Low ≤ x.toInt ∧ x.toInt ≤ int32High := by
    unfold int32Low int32High; omega
  simp [int32?, this]

end Gatehouse
