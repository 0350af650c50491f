import Gatehouse.Decimal.Binary64
import Gatehouse.Decimal.Integer

/-!
# Decimal numbers with a point or an exponent

Reading a decimal text as a number of the 64-bit binary format, correctly rounded: an optional
sign, digits with at most one point among or around them, an optional exponent; or `inf`,
`infinity` or `nan` in any case.
-/

set_option autoImplicit false

namespace Gatehouse

/-- The digits at the start of a text, and the rest. -/
def spanDigits (cs : List Char) : List Char × List Char := cs.span isDigit

/-- The digits as one number; other characters count as nothing. -/
def digitsValue (cs : List Char) : Nat :=
  cs.foldl (fun n c => 10 * n + (c.toNat - '0'.toNat)) 0

/-- An exponent: an optional sign and at least one digit, up to the end. -/
def exponent? : List Char → Option Int := integer?

/-- A decimal without its sign. -/
def unsignedReal? (negative : Bool) (cs : List Char) : Option Binary64 :=
  let (whole, rest) := spanDigits cs
  let (fraction, rest) := match rest with
    | '.' :: rest => spanDigits rest
    | rest => ([], rest)
  let places : Option Int := match rest with
    | [] => some 0
    | c :: rest => if c = 'e' ∨ c = 'E' then exponent? rest else none
  let digits := whole ++ fraction
  if digits = [] then none
  else places.map fun p =>
    Binary64.ofDecimal negative (digitsValue digits) (p - fraction.length)

/-- The words that stand for a number without digits. -/
def wordReal? (negative : Bool) (cs : List Char) : Option Binary64 :=
  let word := String.ofList (cs.map Char.toLower)
  if word = "inf" || word = "infinity" then some (.infinite negative)
  else if word = "nan" then some .nan
  else none

/-- The number that a text stands for. -/
def real? (s : String) : Option Binary64 :=
  let read (negative : Bool) (cs : List Char) : Option Binary64 :=
    match wordReal? negative cs with
    | some x => some x
    | none => unsignedReal? negative cs
  match s.toList with
  | '-' :: cs => read true cs
  | '+' :: cs => read false cs
  | cs => read false cs

end Gatehouse
