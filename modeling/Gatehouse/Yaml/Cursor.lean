import Gatehouse.Decimal.Integer

/-!
# Walking through a YAML text

The layout of a YAML text carries meaning, so a reader has to know the line and the column where it
stands.  A `Cursor` is the rest of a text together with that place, and every step over a character
keeps the two in agreement.
-/

set_option autoImplicit false

namespace Gatehouse

namespace Yaml

/-- A space or a tab. -/
def isBlank (c : Char) : Bool := c == ' ' || c == '\t'

/-- A character that ends a line. -/
def isBreak (c : Char) : Bool := c == '\n' || c == '\r'

/-- A character with a meaning between brackets. -/
def isFlowSign (c : Char) : Bool :=
  c == ',' || c == '[' || c == ']' || c == '\x7b' || c == '\x7d'

/-- A blank, a line end or the end of the text comes first. -/
def atGap : List Char → Bool
  | [] => true
  | c :: _ => isBlank c || isBreak c

/-- A line end or the end of the text comes first. -/
def atLineEnd : List Char → Bool
  | [] => true
  | c :: _ => isBreak c

/-- The mark `---` or `...` comes first, which begins or ends a document at the start of a line. -/
def documentMark? : List Char → Option Char
  | a :: b :: c :: rest =>
    if (a = '-' ∨ a = '.') ∧ a = b ∧ b = c ∧ atGap rest then some a else none
  | _ => none

/-- A place in a text: the characters from there on, the line and the column, the number of
characters before it, and whether anything but blanks stands before it on its line. -/
structure Cursor where
  /-- The characters from here on. -/
  rest : List Char
  /-- The number of lines before this one. -/
  line : Nat
  /-- The number of characters before this one on its line. -/
  column : Nat
  /-- The number of characters before this one. -/
  index : Nat
  /-- Only blanks stand before this one on its line. -/
  fresh : Bool

namespace Cursor

/-- The start of a text. -/
def start (cs : List Char) : Cursor := ⟨cs, 0, 0, 0, true⟩

/-- The place after the next character.  A carriage return and the line feed after it are one line
end. -/
def next (c : Cursor) : Cursor :=
  match c.rest with
  | [] => c
  | '\r' :: '\n' :: rest => ⟨rest, c.line + 1, 0, c.index + 2, true⟩
  | x :: rest =>
    if isBreak x then ⟨rest, c.line + 1, 0, c.index + 1, true⟩
    else ⟨rest, c.line, c.column + 1, c.index + 1, c.fresh && isBlank x⟩

/-- The place after `n` characters of the same line. -/
def advance (n : Nat) (c : Cursor) : Cursor :=
  ⟨c.rest.drop n, c.line, c.column + n, c.index + n, c.fresh && (c.rest.take n).all isBlank⟩

/-- The place after the characters that satisfy `p`, none of which ends a line. -/
def skip (p : Char → Bool) (c : Cursor) : Cursor :=
  c.advance (c.rest.takeWhile p).length

/-- A document begins or ends here. -/
def atDocumentMark (c : Cursor) : Bool := c.column == 0 && (documentMark? c.rest).isSome

/-- Skips blanks and a comment; the comment needs a blank before it. -/
def skipRemark? (c : Cursor) : Option Cursor :=
  let d := c.skip isBlank
  match d.rest with
  | '#' :: _ => if d.index = c.index then none else some (d.skip fun x => !isBreak x)
  | _ => some d

/-- Skips spaces up to a column. -/
def skipIndent (column : Nat) (c : Cursor) : Cursor :=
  c.advance ((c.rest.take (column - c.column)).takeWhile (· = ' ')).length

end Cursor

/-- What stands between two parts of a scalar. -/
structure Gap where
  /-- The blanks, as long as no line has ended. -/
  blanks : List Char := []
  /-- A line has ended. -/
  ended : Bool := false
  /-- The number of line ends that follow another one with nothing but blanks between them. -/
  further : Nat := 0

namespace Gap

/-- What a gap stands for: blanks on one line for themselves, one line end for a space, and each
further line end for itself. -/
def text (g : Gap) : List Char :=
  g.blanks ++ if g.ended && g.further == 0 then [' '] else List.replicate g.further '\n'

/-- Reads the rest of a gap; the fuel bounds the number of characters.

A tab may not stand before the column `indent` at the start of a line.  In a `plain` scalar it may
if nothing but a comment follows it on its line; the end of that line is then like a first one. -/
def read (plain : Bool) (indent : Int) : Nat → Gap → Cursor → Option (Gap × Cursor)
  | 0, _, _ => none
  | fuel + 1, g, c =>
    match c.rest with
    | [] => some (g, c)
    | x :: _ =>
      if isBreak x then
        let g := if c.fresh then { g with further := g.further + 1 }
          else { g with blanks := [], ended := true }
        read plain indent fuel g c.next
      else if !isBlank x then some (g, c)
      else if !c.fresh then read plain indent fuel { g with blanks := g.blanks ++ [x] } c.next
      else if x == '\t' && (c.column : Int) < indent then
        if plain then do
          let d ← c.skipRemark?
          if atLineEnd d.rest then read plain indent fuel g d else none
        else none
      else read plain indent fuel g c.next

/-- Reads the gap at the cursor. -/
def ofCursor (plain : Bool) (indent : Int) (c : Cursor) : Option (Gap × Cursor) :=
  read plain indent (c.rest.length + 1) {} c

end Gap

end Yaml

end Gatehouse
