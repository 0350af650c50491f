import Gatehouse.Text.Quoted.Table
import Gatehouse.Text.Run

/-!
# Quoted text

How a message shows a text it was given: between double quotes, with a backslash before a quote or
a backslash, the usual letters for the tab and the line ends, and by number whatever could not be
seen in print.
-/

set_option autoImplicit false

namespace Gatehouse

/-- A natural number in hexadecimal, lower case, no leading zeros. -/
def hexDigits (n : Nat) : List Char := Nat.toDigits 16 n

/-- One character inside a quoted text. -/
def quotedChar (c : Char) : List Char :=
  if c = '"' || c = '\\' then ['\\', c]
  else if c = '\n' then ['\\', 'n']
  else if c = '\r' then ['\\', 'r']
  else if c = '\t' then ['\\', 't']
  else if c.toNat = 0 then ['\\', '0']
  else if inRuns hiddenRuns c then
    ['\\', 'u', '\x7b'] ++ hexDigits c.toNat ++ ['\x7d']
  else [c]

/-- The text between double quotes. -/
def quoted (s : String) : String :=
  String.ofList ('"' :: s.toList.flatMap quotedChar ++ ['"'])

end Gatehouse
