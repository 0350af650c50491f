import Gatehouse.Decimal.Binary64
import Gatehouse.Decimal.Integer

/-!
# The shortest decimal of a binary number

A finite number of the 64-bit format is written with the fewest digits that read back as the same
number.  The decimals that read back are those in the interval around it that rounds to it (its
ends included exactly when the mantissa is even).  For one digit, two digits, and so on, the two
neighbours of the value on the grid of decimals with so many digits are tested in whole-number
arithmetic: if any point of a grid lies in the interval, so does one of these two.  Of two hits
the nearer is taken; which of two equally near ones is up to the style.

A `FloatStyle` says how the digits are laid out.  There are two in use: `FloatStyle.plain` for a
number that ends up in a text field, and `FloatStyle.literal` for a number quoted in a message.
-/

set_option autoImplicit false

namespace Gatehouse

/-- The decimal `0.d₁d₂… * 10 ^ point`, with its digits as one natural number. -/
structure Digits where
  /-- The digits read as one number. -/
  value : Nat
  /-- How many digits there are. -/
  length : Nat
  /-- Where the decimal point stands, counted from the first digit. -/
  point : Int
deriving DecidableEq, Repr

/-- The least `k` with `num / den < 10 ^ k`, for positive `num` and `den`. -/
def decimalMagnitude (num den : Nat) : Int :=
  let k := ((natText num).length : Int) - (natText den).length
  let reached :=
    if 0 ≤ k then den * powerOfTen k.toNat ≤ num else den ≤ num * powerOfTen (-k).toNat
  if reached then k + 1 else k

/-- The interval that rounds to a number, in quarters of its last place: lower end, value, upper
end.  Below a power of two the numbers lie twice as close. -/
def roundingInterval (mantissa : Nat) (exponent : Int) : Nat × Nat × Nat :=
  let below := if mantissa = powerOfTwo 52 ∧ Binary64.leastExponent < exponent then 1 else 2
  (4 * mantissa - below, 4 * mantissa, 4 * mantissa + 2)

/-- The decimal with `length` digits that reads back as the number, if there is one. -/
def roundTrip? (tieUp : Bool) (mantissa : Nat) (exponent point : Int) (length : Nat) :
    Option Digits :=
  let (low, mid, high) := roundingInterval mantissa exponent
  -- a step of the grid, measured in quarters of the last place, is `u / v`
  let places := point - length
  let (u, v) :=
    if 0 ≤ places then (powerOfTen places.toNat, 1) else (1, powerOfTen (-places).toNat)
  let (u, v) :=
    if 0 ≤ exponent - 2 then (u, v * powerOfTwo (exponent - 2).toNat)
    else (u * powerOfTwo (2 - exponent).toNat, v)
  let below := mid * v / u
  let above := below + 1
  let hit (c : Nat) : Bool :=
    if mantissa % 2 = 0 then low * v ≤ c * u && c * u ≤ high * v
    else low * v < c * u && c * u < high * v
  let toBelow := mid * v - below * u
  let toAbove := above * u - mid * v
  let chosen :=
    match hit below, hit above with
    | false, false => none
    | true, false => some below
    | false, true => some above
    | true, true =>
      if toBelow < toAbove then some below
      else if toAbove < toBelow then some above
      else if tieUp then some above
      else some (if below % 2 = 0 then below else above)
  chosen.map fun c =>
    if c = powerOfTen length then ⟨1, 1, point + 1⟩ else ⟨c, length, point⟩

/-- The fewest digits that read back as `mantissa * 2 ^ exponent`, for a positive mantissa. -/
def shortestDigits (tieUp : Bool) (mantissa : Nat) (exponent : Int) : Digits :=
  let (num, den) := Binary64.ratio mantissa exponent
  let point := decimalMagnitude num den
  ((List.range 17).findSome? fun n => roundTrip? tieUp mantissa exponent point (n + 1)).getD
    ⟨0, 1, 1⟩

/-- How the digits of a number are laid out. -/
structure FloatStyle where
  /-- Of two equally near decimals the greater is taken, else the one with an even last digit. -/
  tieUp : Bool
  /-- A whole number keeps `.0` after it. -/
  keepsPoint : Bool
  /-- The least and the greatest exponent of the first digit for which no exponent is written;
  `none` means that none is ever written. -/
  positional : Option (Int × Int)
deriving DecidableEq, Repr

/-- A number as it stands in a text field: no exponent, and nothing after a whole number. -/
def FloatStyle.plain : FloatStyle := ⟨true, false, none⟩

/-- A number of a settings file quoted in a message: no exponent, `.0` after a whole number. -/
def FloatStyle.pointed : FloatStyle := ⟨true, true, none⟩

/-- A number of a JSON text quoted in a message: an exponent outside 1e-5 to 1e16, and `.0` after
a whole number that has none. -/
def FloatStyle.literal : FloatStyle := ⟨false, true, some (-5, 15)⟩

/-- Digits without an exponent. -/
def positionalText (keepsPoint : Bool) (d : Digits) : List Char :=
  let cs := paddedNat d.length d.value
  if d.point ≤ 0 then '0' :: '.' :: List.replicate (-d.point).toNat '0' ++ cs
  else if d.length ≤ d.point then
    cs ++ List.replicate (d.point - d.length).toNat '0' ++ (if keepsPoint then ['.', '0'] else [])
  else cs.take d.point.toNat ++ '.' :: cs.drop d.point.toNat

/-- Digits with one of them before the point and an exponent with its sign. -/
def exponentText (d : Digits) : List Char :=
  let cs := paddedNat d.length d.value
  let e := d.point - 1
  let lead := match cs with
    | [] => []
    | [c] => [c]
    | c :: rest => c :: '.' :: rest
  lead ++ ['e', if e < 0 then '-' else '+'] ++ natText e.natAbs

/-- A number in a style. -/
def Binary64.text (style : FloatStyle) : Binary64 → List Char
  | .nan => "NaN".toList
  | .infinite negative => (if negative then ['-'] else []) ++ "inf".toList
  | .finite negative m e =>
    let sign := if negative then ['-'] else []
    if m = 0 then sign ++ '0' :: (if style.keepsPoint then ['.', '0'] else [])
    else
      let d := shortestDigits style.tieUp m e
      let within := match style.positional with
        | none => true
        | some (low, high) => low ≤ d.point - 1 && d.point - 1 ≤ high
      sign ++ if within then positionalText style.keepsPoint d else exponentText d

end Gatehouse
