/-!
# Hexadecimal digits

Escapes in the texts of several formats number a character in hexadecimal digits of either case.
-/

set_option autoImplicit false

namespace Gatehouse

/-- The value of a hexadecimal digit of either case. -/
def hexValue? (c : Char) : Option Nat :=
  if '0' ≤ c ∧ c ≤ '9' then some (c.toNat - '0'.toNat)
  else if 'a' ≤ c ∧ c ≤ 'f' then some (c.toNat - 'a'.toNat + 10)
  else if 'A' ≤ c ∧ c ≤ 'F' then some (c.toNat - 'A'.toNat + 10)
  else none

/-- The number that hexadecimal digits stand for. -/
def hexNumber? (digits : List Char) : Option Nat :=
  digits.foldlM (fun n c => (hexValue? c).map fun d => 16 * n + d) 0

/-- The character with a number; the numbers of the halves of pairs have none. -/
def char? (n : Nat) : Option Char :=
  if n < 0xd800 ∨ 0xe000 ≤ n ∧ n < 0x110000 then some (Char.ofNat n) else none

/-- The character whose number hexadecimal digits stand for. -/
def hexChar? (digits : List Char) : Option Char := (hexNumber? digits).bind char?

end Gatehouse
