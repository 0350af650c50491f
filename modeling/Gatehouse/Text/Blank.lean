/-!
# Blanks

A character is blank when it has the Unicode property *White_Space*; there are 25 of them.  Names
are tested for having something other than blanks in them, and the words a user types for a rule
or a format may have blanks around them.  The zero-width characters (U+200B, U+FEFF) are no blanks.
-/

set_option autoImplicit false

namespace Gatehouse

/-- The ranges of the property *White_Space*, first and last code point. -/
def blankRanges : List (Nat × Nat) :=
  [(0x9, 0xd), (0x20, 0x20), (0x85, 0x85), (0xa0, 0xa0), (0x1680, 0x1680), (0x2000, 0x200a),
   (0x2028, 0x2029), (0x202f, 0x202f), (0x205f, 0x205f), (0x3000, 0x3000)]

/-- The character is white space. -/
def isBlank (c : Char) : Bool := blankRanges.any fun r => r.1 ≤ c.toNat && c.toNat ≤ r.2

/-- The characters without the blanks at their start. -/
def dropBlanks (cs : List Char) : List Char := cs.dropWhile isBlank

/-- The characters without the blanks at either end. -/
def trimBlanks (cs : List Char) : List Char := (dropBlanks (dropBlanks cs).reverse).reverse

/-- Every character is blank; so the text is empty once trimmed. -/
def allBlank (s : String) : Bool := s.toList.all isBlank

end Gatehouse
