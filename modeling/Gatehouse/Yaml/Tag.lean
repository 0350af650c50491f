import Gatehouse.Text.Hexadecimal
import Gatehouse.Yaml.Cursor

/-!
# Tags and directives

A tag says what a value is: a handle between exclamation marks and a suffix, or a whole address
between angle brackets.  A directive before a document may declare what a handle stands for.

Both may hold only the characters of an address; any other one is written as octets in hexadecimal.
`Tag.read` and `Directive.read` take the cursor at the first sign and give the cursor after the last
one.
-/

set_option autoImplicit false

namespace Gatehouse

namespace Yaml

/-- A letter, a digit, a hyphen or an underscore. -/
def isWordChar (c : Char) : Bool := c.isAlphanum || c == '_' || c == '-'

/-- A character of an address. -/
def isAddressChar (c : Char) : Bool :=
  c.isAlphanum || "-#;/?:@&=+$,_.!~*'()[]%".toList.contains c

/-- A character of a suffix. -/
def isSuffixChar (c : Char) : Bool := isAddressChar c && !isFlowSign c && c != '!'

/-! ## Octets -/

/-- The octet after a percent sign. -/
def octet? : List Char → Option (Nat × List Char)
  | '%' :: a :: b :: rest => do
    let high ← hexValue? a
    let low ← hexValue? b
    some (16 * high + low, rest)
  | _ => none

/-- The number of octets that a first one announces. -/
def octetCount? (n : Nat) : Option Nat :=
  if n < 0x80 then some 1
  else if n < 0xc0 then none
  else if n < 0xe0 then some 2
  else if n < 0xf0 then some 3
  else if n < 0xf8 then some 4
  else none

/-- Reads the octets that follow a first one. -/
def furtherOctets : Nat → Nat → List Char → Option (Nat × List Char)
  | 0, n, cs => some (n, cs)
  | count + 1, n, cs => do
    let (m, rest) ← octet? cs
    if m / 0x40 = 2 then furtherOctets count (0x100 * n + m) rest else none

/-- The character that octets stand for.  Its number is made of the whole octets, so that only a
single one stands for the character one would expect. -/
def escapedChar? (cs : List Char) : Option (Char × List Char) := do
  let (n, rest) ← octet? cs
  let count ← octetCount? n
  let (n, rest) ← furtherOctets (count - 1) n rest
  let c ← char? n
  some (c, rest)

/-- Reads the characters that satisfy `p`, octets among them; the fuel bounds their number. -/
def readAddress (p : Char → Bool) : Nat → List Char → Option (List Char × List Char)
  | fuel + 1, c :: rest =>
    if !p c then some ([], c :: rest)
    else do
      let (d, rest) ← if c = '%' then escapedChar? (c :: rest) else some (c, rest)
      let (text, rest) ← readAddress p fuel rest
      some (d :: text, rest)
  | _, cs => some ([], cs)

/-! ## Tags -/

/-- A tag as it was written.  A tag without a handle of its own has the handle `!`, and a whole
address the empty one. -/
structure Tag where
  /-- The handle, with its exclamation marks. -/
  handle : String
  /-- What follows the handle. -/
  suffix : String
deriving DecidableEq

/-- Reads a handle: an exclamation mark, and a word and another one or not. -/
def readHandle : List Char → Option (List Char × List Char)
  | '!' :: cs =>
    let word := cs.takeWhile isWordChar
    match cs.drop word.length with
    | '!' :: rest => some ('!' :: word ++ ['!'], rest)
    | rest => some ('!' :: word, rest)
  | _ => none

/-- The handle is complete: it has two exclamation marks. -/
def isNamedHandle (handle : List Char) : Bool :=
  2 ≤ handle.length && handle.head? == some '!' && handle.getLast? == some '!'

namespace Tag

/-- Reads a tag; nothing but a gap, or between brackets (`flow`) a sign of theirs, may follow. -/
def read (flow : Bool) (c : Cursor) : Option (Tag × Cursor) := do
  let (tag, rest) ← match c.rest with
    | '!' :: '<' :: cs => do
      let (text, rest) ← readAddress isAddressChar cs.length cs
      match rest with
      | '>' :: rest => some (⟨"", String.ofList text⟩, rest)
      | _ => none
    | cs => do
      let (handle, rest) ← readHandle cs
      let (text, rest) ← readAddress isSuffixChar rest.length rest
      if isNamedHandle handle then
        if text = [] then none else some (⟨String.ofList handle, String.ofList text⟩, rest)
      else match handle.tail ++ text with
        | [] => some (⟨"", "!"⟩, rest)
        | text => some (⟨"!", String.ofList text⟩, rest)
  let isSign := flow && (rest.head?.map isFlowSign).getD false
  if atGap rest || isSign then some (tag, c.advance (c.rest.length - rest.length)) else none

/-- The address that every document declares for the handle `!!`. -/
def coreAddress : String := "tag:yaml.org,2002:"

/-- The tag with the address that its handle stands for.  A handle with a word must be declared. -/
def resolve? (declared : List (String × String)) (t : Tag) : Option Tag :=
  match declared.lookup t.handle with
  | some address => some ⟨address, t.suffix⟩
  | none =>
    if t.handle = "!!" then some ⟨coreAddress, t.suffix⟩
    else if isNamedHandle t.handle.toList then none
    else some t

end Tag

/-! ## Directives -/

/-- A line before a document. -/
inductive Directive where
  /-- The version of the format. -/
  | version
  /-- What a handle stands for. -/
  | declare (handle address : String)
  /-- Something unknown. -/
  | unknown
deriving DecidableEq

namespace Directive

/-- Reads the number of a version, which has nine digits at most. -/
def readNumber (cs : List Char) : Option (List Char) :=
  let digits := cs.takeWhile isDigit
  if digits = [] ∨ 9 < digits.length then none else some (cs.drop digits.length)

/-- Reads the two numbers of a version. -/
def readVersion (cs : List Char) : Option (List Char) := do
  match ← readNumber cs with
  | '.' :: rest => readNumber rest
  | _ => none

/-- Reads the address that a handle stands for.  It may begin with an exclamation mark. -/
def readTarget (cs : List Char) : Option (List Char × List Char) :=
  match cs with
  | '!' :: rest => do
    let (text, rest) ← readAddress isAddressChar rest.length rest
    some ('!' :: text, rest)
  | c :: _ => if isSuffixChar c then readAddress isAddressChar cs.length cs else none
  | [] => none

/-- Reads a handle and its address. -/
def readDeclaration (cs : List Char) : Option (Directive × List Char) := do
  let (handle, rest) ← readHandle cs
  if handle ≠ ['!'] ∧ !isNamedHandle handle then none
  else
    let (address, rest) ← readTarget (rest.dropWhile isBlank)
    if atGap rest then some (.declare (String.ofList handle) (String.ofList address), rest)
    else none

/-- Reads a directive and the end of its line, the cursor being at the percent sign. -/
def read (c : Cursor) : Option (Directive × Cursor) := do
  let cs := c.rest.drop 1
  let name := cs.takeWhile isWordChar
  let rest := cs.drop name.length
  if name = [] ∨ !atGap rest then none
  else
    let (directive, rest) ←
      if name = "YAML".toList then
        (readVersion (rest.dropWhile isBlank)).map fun rest => (Directive.version, rest)
      else if name = "TAG".toList then readDeclaration (rest.dropWhile isBlank)
      else some (.unknown, rest.dropWhile fun c => !isBreak c)
    let d ← (c.advance (c.rest.length - rest.length)).skipRemark?
    if atLineEnd d.rest then some (directive, d.next) else none

end Directive

end Yaml

end Gatehouse
