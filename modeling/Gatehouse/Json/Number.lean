import Gatehouse.Json.Value

/-!
# Numbers in JSON texts

A number without point and exponent that fits 64 bits is an integer, with a sign or without.  Any
other number is binary: its digits make a whole number for as long as that fits 64 bits, the digits
after that only count as places, and the whole number is scaled by the power of ten that is left.
The scaling rounds once for the whole number, once for the power and once for the result, so that
the last place may differ from that of the nearest number of the format.
-/

set_option autoImplicit false

namespace Gatehouse

namespace Json

/-- Appends digits to a whole number for as long as it fits 64 bits without a sign.  Gives the
number, how many digits went into it, and how many are left. -/
def takeDigits (value taken : Nat) : List Char → Nat × Nat × Nat
  | [] => (value, taken, 0)
  | c :: cs =>
    let next := 10 * value + (c.toNat - '0'.toNat)
    if next < powerOfTwo 64 then takeDigits next (taken + 1) cs else (value, taken, cs.length + 1)

/-- Divides by a power of ten, in steps the format can hold. -/
def scaledDown : Nat → Binary64 → Nat → Binary64
  | 0, x, _ => x
  | fuel + 1, x, places =>
    if places ≤ 308 then x.overPowerOfTen places
    else if x.isZero then x
    else scaledDown fuel (x.overPowerOfTen 308) (places - 308)

/-- The number `significand * 10 ^ places`; too large a number is refused. -/
def scaledReal? (negative : Bool) (significand : Nat) (places : Int) : Option Binary64 :=
  let x := Binary64.ofRatio false significand 1
  let signed (y : Binary64) := if negative then y.negate else y
  if places < 0 then some (signed (scaledDown 5 x (-places).toNat))
  else if x.isZero then some (signed x)
  else if 308 < places then none
  else match x.timesPowerOfTen places.toNat with
    | .infinite _ => none
    | y => some (signed y)

/-- A whole part: zero alone, or digits that do not start with one. -/
def isWholePart : List Char → Bool
  | [] => false
  | ['0'] => true
  | c :: _ => c != '0'

/-- The exponent part: `none` if it is malformed, else whether there is one and its value. -/
def exponentPart? : List Char → Option (Option Int)
  | [] => some none
  | c :: cs =>
    if c = 'e' ∨ c = 'E' then
      let (negative, digits) := match cs with
        | '-' :: ds => (true, ds)
        | '+' :: ds => (false, ds)
        | ds => (false, ds)
      (digits? digits).map fun n => some (if negative then -(n : Int) else n)
    else none

/-- The number that a lexeme stands for. -/
def number? (lexeme : List Char) : Option Json :=
  let (negative, cs) := match lexeme with
    | '-' :: cs => (true, cs)
    | cs => (false, cs)
  let (whole, rest) := cs.span isDigit
  if !isWholePart whole then none
  else
    let (significand, _, dropped) := takeDigits 0 0 whole
    let (pointed, fraction, rest) := match rest with
      | '.' :: rest => let (fraction, rest) := rest.span isDigit; (true, fraction, rest)
      | rest => (false, [], rest)
    if pointed && fraction.isEmpty then none
    else match exponentPart? rest with
      | none => none
      | some exponent =>
        if !pointed && exponent.isNone && dropped == 0 then
          if !negative then some (.int significand)
          else if 0 < significand && significand ≤ powerOfTwo 63 then
            some (.int (-(significand : Int)))
          else some (.real (Binary64.ofRatio true significand 1))
        else
          let (significand, places, _) := takeDigits significand 0 fraction
          let shift := (dropped : Int) - places
          match exponent with
          | none => (scaledReal? negative significand shift).map .real
          | some e =>
            if e.natAbs ≤ 2147483647 then
              (scaledReal? negative significand (shift + e)).map .real
            else if significand != 0 && 0 < e then none
            else some (.real (.zero negative))

end Json

end Gatehouse
