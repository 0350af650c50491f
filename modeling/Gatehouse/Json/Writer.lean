import Gatehouse.Json.Value
import Gatehouse.Decimal.Shortest

/-!
# Writing JSON

Two layouts: `Json.compact` without any space, which a cell of a table holds, and `Json.pretty`
with a line for each member and two spaces for each level, which the commands print.  Strings are
escaped the same way in both: a backslash before a quote and a backslash, the five short escapes,
and four hexadecimal digits for the other control characters.  Nothing else is escaped.
-/

set_option autoImplicit false

namespace Gatehouse

namespace Json

/-- A hexadecimal digit, lower case. -/
def hexDigit (n : Nat) : Char := Nat.digitChar n

/-- One character of a string. -/
def escapedChar (c : Char) : List Char :=
  if c = '"' then ['\\', '"']
  else if c = '\\' then ['\\', '\\']
  else if c = '\n' then ['\\', 'n']
  else if c = '\r' then ['\\', 'r']
  else if c = '\t' then ['\\', 't']
  else if c = Char.ofNat 8 then ['\\', 'b']
  else if c = Char.ofNat 12 then ['\\', 'f']
  else if c.toNat < 32 then ['\\', 'u', '0', '0', hexDigit (c.toNat / 16), hexDigit (c.toNat % 16)]
  else [c]

/-- A string with its quotes. -/
def stringText (s : String) : List Char := '"' :: s.toList.flatMap escapedChar ++ ['"']

/-- A value that is neither an array nor an object. -/
def scalarText : Json → List Char
  | .null => "null".toList
  | .bool true => "true".toList
  | .bool false => "false".toList
  | .int n => intText n
  | .real x => x.text .literal
  | .text s => stringText s
  | .array _ => []
  | .object _ => []

mutual

/-- A value without any space. -/
def compactChars : Json → List Char
  | .array items => '[' :: compactItems items ++ [']']
  | .object members => '\x7b' :: compactMembers members ++ ['\x7d']
  | .null => scalarText .null
  | .bool b => scalarText (.bool b)
  | .int n => scalarText (.int n)
  | .real x => scalarText (.real x)
  | .text s => scalarText (.text s)

/-- Items with a comma between them. -/
def compactItems : List Json → List Char
  | [] => []
  | [v] => compactChars v
  | v :: w :: rest => compactChars v ++ ',' :: compactItems (w :: rest)

/-- Members with a comma between them. -/
def compactMembers : List (String × Json) → List Char
  | [] => []
  | [(k, v)] => stringText k ++ ':' :: compactChars v
  | (k, v) :: m :: rest =>
    stringText k ++ ':' :: compactChars v ++ ',' :: compactMembers (m :: rest)

end

/-- A new line and the indentation of a level. -/
def lineStart (level : Nat) : List Char := '\n' :: List.replicate (2 * level) ' '

mutual

/-- A value with a line for each item and member, inside `level` levels. -/
def prettyChars (level : Nat) : Json → List Char
  | .array [] => ['[', ']']
  | .array (v :: rest) =>
    '[' :: prettyItems (level + 1) (v :: rest) ++ lineStart level ++ [']']
  | .object [] => ['\x7b', '\x7d']
  | .object (m :: rest) =>
    '\x7b' :: prettyMembers (level + 1) (m :: rest) ++ lineStart level ++ ['\x7d']
  | .null => scalarText .null
  | .bool b => scalarText (.bool b)
  | .int n => scalarText (.int n)
  | .real x => scalarText (.real x)
  | .text s => scalarText (.text s)

/-- Items, each on a line of its own. -/
def prettyItems (level : Nat) : List Json → List Char
  | [] => []
  | [v] => lineStart level ++ prettyChars level v
  | v :: w :: rest =>
    lineStart level ++ prettyChars level v ++ ',' :: prettyItems level (w :: rest)

/-- Members, each on a line of its own. -/
def prettyMembers (level : Nat) : List (String × Json) → List Char
  | [] => []
  | [(k, v)] => lineStart level ++ stringText k ++ ':' :: ' ' :: prettyChars level v
  | (k, v) :: m :: rest =>
    lineStart level ++ stringText k ++ ':' :: ' ' :: prettyChars level v ++
      ',' :: prettyMembers level (m :: rest)

end

/-- The value on one line. -/
def compact (v : Json) : String := String.ofList (compactChars v)

/-- The value with a line for each member. -/
def pretty (v : Json) : String := String.ofList (prettyChars 0 v)

end Json

end Gatehouse
