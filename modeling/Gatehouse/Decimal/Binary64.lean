import Gatehouse.Decimal.Power

/-!
# Binary floating point

The numbers of the 64-bit binary format, as exact values: a sign, a whole number below `2 ^ 53` and
a power of two.  Values come in by one door, `Binary64.ofRatio`, which rounds a quotient of natural
numbers to the nearest number of the format and a tie to the even one; reading a decimal,
multiplying and dividing are all stated through it, so there is no arithmetic here that a proof
cannot see.
-/

set_option autoImplicit false

namespace Gatehouse

/-- A number of the 64-bit binary format. -/
inductive Binary64 where
  /-- Not a number. -/
  | nan
  /-- Beyond the largest finite number. -/
  | infinite (negative : Bool)
  /-- The value `mantissa * 2 ^ exponent`, with the sign.  Built by `ofRatio`, it has
  `mantissa < 2 ^ 53`, and `2 ^ 52 ≤ mantissa` unless `exponent` is the least one. -/
  | finite (negative : Bool) (mantissa : Nat) (exponent : Int)
deriving DecidableEq, Repr

namespace Binary64

/-- The exponent of the numbers next to zero. -/
def leastExponent : Int := -1074

/-- The exponent of the largest finite numbers. -/
def greatestExponent : Int := 971

/-- Zero, with its sign. -/
def zero (negative : Bool) : Binary64 := .finite negative 0 leastExponent

/-- A quotient rounded to the nearest whole number, a tie to the even one. -/
def nearest (num den : Nat) : Nat :=
  let q := num / den
  let r := num % den
  if 2 * r < den then q else if den < 2 * r then q + 1 else q + q % 2

/-- The quotient `num / den * 2 ^ (-e)` as a quotient of natural numbers. -/
def scaled (num den : Nat) (e : Int) : Nat × Nat :=
  if 0 ≤ e then (num, den * powerOfTwo e.toNat) else (num * powerOfTwo (-e).toNat, den)

/-- The greatest `e` with `2 ^ e ≤ num / den`, for positive `num` and `den`. -/
def magnitude (num den : Nat) : Int :=
  let e := (num.log2 : Int) - den.log2
  let (n, d) := scaled num den e
  if d ≤ n then e else e - 1

/-- The number of the format nearest to `num / den`, a tie going to the even one. -/
def ofRatio (negative : Bool) (num den : Nat) : Binary64 :=
  if num = 0 then zero negative
  else
    let e := max (magnitude num den - 52) leastExponent
    let (n, d) := scaled num den e
    let m := nearest n d
    let (m, e) := if m = powerOfTwo 53 then (powerOfTwo 52, e + 1) else (m, e)
    if greatestExponent < e then .infinite negative else .finite negative m e

/-- The number nearest to the decimal `digits * 10 ^ places`.  Decimals far outside the format are
told by their length, which saves the work on them. -/
def ofDecimal (negative : Bool) (digits : Nat) (places : Int) : Binary64 :=
  let length := (Nat.toDigits 10 digits).length
  if digits = 0 then zero negative
  else if 400 < length + places then .infinite negative
  else if length + places < -400 then zero negative
  else if 0 ≤ places then ofRatio negative (digits * powerOfTen places.toNat) 1
  else ofRatio negative digits (powerOfTen (-places).toNat)

/-- The magnitude of a finite number as a quotient. -/
def ratio (mantissa : Nat) (exponent : Int) : Nat × Nat :=
  if 0 ≤ exponent then (mantissa * powerOfTwo exponent.toNat, 1)
  else (mantissa, powerOfTwo (-exponent).toNat)

/-- The product with `10 ^ k`, where `10 ^ k` is first rounded to the format. -/
def timesPowerOfTen (k : Nat) : Binary64 → Binary64
  | .finite s m e =>
    match ofRatio false (powerOfTen k) 1 with
    | .finite _ m' e' =>
      let (n, d) := ratio (m * m') (e + e')
      ofRatio s n d
    | x => x
  | x => x

/-- The quotient by `10 ^ k`, where `10 ^ k` is first rounded to the format. -/
def overPowerOfTen (k : Nat) : Binary64 → Binary64
  | .finite s m e =>
    match ofRatio false (powerOfTen k) 1 with
    | .finite _ m' e' =>
      let (n, d) := ratio m (e - e')
      ofRatio s n (d * m')
    | x => x
  | x => x

/-- The number is zero, of either sign. -/
def isZero : Binary64 → Bool
  | .finite _ m _ => m = 0
  | _ => false

/-- The number is finite. -/
def isFinite : Binary64 → Bool
  | .finite _ _ _ => true
  | _ => false

/-- The number with the other sign. -/
def negate : Binary64 → Binary64
  | .nan => .nan
  | .infinite s => .infinite !s
  | .finite s m e => .finite (!s) m e

/-- The nearest whole number, a half going away from zero, held within `low` and `high`; what is
not a number counts as zero. -/
def toBounded (low high : Int) : Binary64 → Int
  | .nan => max low (min high 0)
  | .infinite true => low
  | .infinite false => high
  | .finite s m e =>
    let (n, d) := ratio m e
    let rounded : Int := ((2 * n + d) / (2 * d) : Nat)
    max low (min high (if s then -rounded else rounded))

end Binary64

end Gatehouse
