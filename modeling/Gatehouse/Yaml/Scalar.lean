import Gatehouse.Text.Hexadecimal
import Gatehouse.Yaml.Cursor

/-!
# The spellings of a YAML scalar

A scalar is a text.  It may stand for itself (plain), between quotes, or as a block of lines that is
indented below its head.  Every reader here takes the cursor at the scalar, the column from which on
its further lines must stand, and gives the text and the cursor after it.
-/

set_option autoImplicit false

namespace Gatehouse

namespace Yaml

/-! ## Between quotes -/

/-- The character numbered by the first `width` characters, and the number of characters of its
escape after the backslash. -/
def numbered? (width : Nat) (cs : List Char) : Option (Char × Nat) :=
  if cs.length < width then none else (hexChar? (cs.take width)).map (·, width + 1)

/-- The letters after a backslash, with the number of the character each stands for. -/
def shortEscapes : List (Char × Nat) :=
  [('0', 0), ('a', 7), ('b', 8), ('t', 9), ('\t', 9), ('n', 10), ('v', 11), ('f', 12), ('r', 13),
   ('e', 27), (' ', 32), ('"', 34), ('/', 47), ('\\', 92), ('N', 0x85), ('_', 0xa0),
   ('L', 0x2028), ('P', 0x2029)]

/-- The character that an escape stands for, and the number of characters after the backslash. -/
def escape? : List Char → Option (Char × Nat)
  | [] => none
  | 'x' :: rest => numbered? 2 rest
  | 'u' :: rest => numbered? 4 rest
  | 'U' :: rest => numbered? 8 rest
  | c :: _ => (shortEscapes.lookup c).map fun n => (Char.ofNat n, 1)

/-- Reads the rest of a text between quotes.  `text` is what has been read, last character first;
the fuel bounds the number of characters.  Each line must begin at the column `indent` or after it,
unless the quote at its end follows a line end that does not count. -/
def quotedLoop (double : Bool) (indent : Int) :
    Nat → List Char → Cursor → Option (List Char × Cursor)
  | 0, _, _ => none
  | fuel + 1, text, c =>
    let quote := if double then '"' else '\''
    if c.atDocumentMark then none
    else match c.rest with
      | [] => none
      | x :: rest =>
        if (c.column : Int) < indent then none
        else if x = quote then
          if !double && rest.head? == some '\'' then
            quotedLoop double indent fuel ('\'' :: text) (c.advance 2)
          else some (text.reverse, c.next)
        else if isBlank x || isBreak x then do
          let (gap, d) ← Gap.ofCursor false indent c
          quotedLoop double indent fuel (gap.text.reverse ++ text) d
        else if double && x == '\\' then
          if (rest.head?.map isBreak) = some true then
            let d := c.next.next
            if d.rest.head? = some quote then some (text.reverse, d.next)
            else do
              let (gap, d) ← Gap.ofCursor false indent d
              quotedLoop double indent fuel (gap.text.reverse ++ text) d
          else do
            let (y, n) ← escape? rest
            quotedLoop double indent fuel (y :: text) (c.advance (n + 1))
        else quotedLoop double indent fuel (x :: text) c.next

/-- Reads a text between quotes, the cursor being at the first quote.  After it only a remark, or
what goes on with a flow collection (`flow`) or a key, may stand on the line. -/
def readQuoted (flow double : Bool) (indent : Int) (c : Cursor) : Option (String × Cursor) := do
  let (text, d) ← quotedLoop double indent (c.rest.length + 1) [] c.next
  let d ← d.skipRemark?
  let fits := match d.rest with
    | ':' :: _ => flow || c.line == d.line
    | x :: _ => isBreak x || flow && (x == ',' || x == ']' || x == '\x7d')
    | [] => true
  if fits then some (String.ofList text, d) else none

/-! ## Plain -/

/-- The characters of a plain scalar up to the next blank.  A colon ends it before a blank, and
between brackets (`flow`) the signs of flow collections do too. -/
def plainChunk (flow : Bool) : List Char → List Char
  | [] => []
  | c :: rest =>
    if isBlank c || isBreak c then []
    else if c == ':' && (atGap rest || flow && (rest.head?.map isFlowSign) == some true) then []
    else if flow && isFlowSign c then []
    else c :: plainChunk flow rest

/-- Reads the rest of a plain scalar.  `text` is what has been read, and `gap` what stands between
it and the cursor. -/
def plainLoop (flow : Bool) (indent : Int) :
    Nat → List Char → List Char → Cursor → Option (List Char × Cursor)
  | 0, _, _, _ => none
  | fuel + 1, text, gap, c =>
    let chunk := plainChunk flow c.rest
    if c.atDocumentMark || c.rest.head? == some '#' || chunk == [] then some (text, c)
    else if flow && chunk == ['-'] && ((c.rest.drop 1).head?.map isFlowSign) == some true then none
    else do
      let text := text ++ gap ++ chunk
      let d := c.advance chunk.length
      if atGap d.rest then
        let (gap, d) ← Gap.ofCursor true indent d
        if !flow && (d.column : Int) < indent then some (text, d)
        else plainLoop flow indent fuel text gap.text d
      else some (text, d)

/-- Reads a plain scalar.  The cursor after it is fresh if its last line has ended. -/
def readPlain (flow : Bool) (indent : Int) (c : Cursor) : Option (String × Cursor) :=
  if flow && (c.column : Int) < indent then none
  else (plainLoop flow indent (c.rest.length + 1) [] [] c).map fun (text, d) =>
    (String.ofList text, d)

/-! ## Blocks of lines -/

/-- What becomes of the line ends after the last line of a block. -/
inductive Chomping where
  /-- One is kept. -/
  | clip
  /-- None is kept. -/
  | strip
  /-- All are kept. -/
  | keep
deriving DecidableEq

/-- Reads the sign for the line ends at the end. -/
def readChomping : List Char → Option (Chomping × List Char)
  | '+' :: rest => some (.keep, rest)
  | '-' :: rest => some (.strip, rest)
  | _ => none

/-- Reads a digit that tells by how much a block is indented. -/
def readDepth : List Char → Option (Nat × List Char)
  | c :: rest => if '1' ≤ c ∧ c ≤ '9' then some (c.toNat - '0'.toNat, rest) else none
  | [] => none

/-- Reads the head of a block after its sign: what becomes of the last line ends, and the depth. -/
def readBlockHead (cs : List Char) : Chomping × Option Nat × List Char :=
  match readChomping cs with
  | some (chomping, rest) =>
    match readDepth rest with
    | some (n, rest) => (chomping, some n, rest)
    | none => (chomping, none, rest)
  | none =>
    match readDepth cs with
    | some (n, rest) =>
      match readChomping rest with
      | some (chomping, rest) => (chomping, some n, rest)
      | none => (.clip, some n, rest)
    | none => (.clip, none, cs)

/-- Skips empty lines and finds the column of the first line that shows something: the number of
empty lines, the greatest column among them and that line, and the cursor. -/
def firstColumn : Nat → Nat → Nat → Cursor → Nat × Nat × Cursor
  | 0, lines, greatest, c => (lines, greatest, c)
  | fuel + 1, lines, greatest, c =>
    let d := c.skip (· == ' ')
    let greatest := max greatest d.column
    match d.rest with
    | x :: _ => if isBreak x then firstColumn fuel (lines + 1) greatest d.next
      else (lines, greatest, d)
    | [] => (lines, greatest, d)

/-- Skips the indentation of a line, and empty lines before it: their number, and the cursor. -/
def skipEmptyLines (column : Nat) : Nat → Nat → Cursor → Nat × Cursor
  | 0, lines, c => (lines, c)
  | fuel + 1, lines, c =>
    let d := c.skipIndent column
    match d.rest with
    | x :: _ => if isBreak x then skipEmptyLines column fuel (lines + 1) d.next else (lines, d)
    | [] => (lines, d)

/-- What has been read of a block. -/
structure BlockText where
  /-- The text without the line end of its last line. -/
  text : List Char := []
  /-- The last line has ended. -/
  ended : Bool := false
  /-- The number of empty lines after it. -/
  empty : Nat := 0
  /-- The last line begins with a blank, so that the line end after it counts. -/
  blank : Bool := false

namespace BlockText

/-- The line ends after the last line as they stand. -/
def tail (b : BlockText) : List Char := List.replicate ((if b.ended then 1 else 0) + b.empty) '\n'

/-- What stands between the last line and a further one. -/
def joint (literal : Bool) (b : BlockText) (blank : Bool) : List Char :=
  if !literal && b.ended && !b.blank && !blank then
    if b.empty = 0 then [' '] else List.replicate b.empty '\n'
  else b.tail

/-- Reads the lines of a block whose lines begin at `column`; the fuel bounds their number. -/
def read (literal : Bool) (column : Nat) : Nat → BlockText → Cursor → BlockText × Cursor
  | 0, b, c => (b, c)
  | fuel + 1, b, c =>
    if c.column = column ∧ c.rest ≠ [] ∧ ¬(column = 0 ∧ c.atDocumentMark) then
      let line := c.rest.takeWhile fun x => !isBreak x
      let blank := (line.head?.map isBlank).getD false
      let text := b.text ++ b.joint literal blank ++ line
      let d := c.advance line.length
      match d.rest with
      | [] => (⟨text, false, 0, blank⟩, d)
      | _ =>
        let (empty, e) := skipEmptyLines column (d.rest.length + 1) 0 d.next
        read literal column fuel ⟨text, true, empty, blank⟩ e
    else (b, c)

/-- The whole text of a block that ends at the cursor. -/
def finish (chomping : Chomping) (column : Nat) (b : BlockText) (c : Cursor) : List Char :=
  let last := (if b.ended then ['\n'] else []) ++
    (if c.rest = [] ∧ max column 1 ≤ c.column then ['\n'] else [])
  match chomping with
  | .strip => b.text
  | .clip => b.text ++ last
  | .keep => b.text ++ last ++ List.replicate b.empty '\n'

end BlockText

/-- The text of a block without lines that ends with the text around it.  `headEnded` tells whether
the line of its head has ended, and `empty` is the number of empty lines after it. -/
def emptyBlock (chomping : Chomping) (headEnded : Bool) (empty : Nat) : List Char :=
  match chomping with
  | .strip => []
  | .clip => if headEnded then ['\n'] else []
  | .keep => if headEnded then List.replicate (max empty 1) '\n' else []

/-- Reads a block of lines, the cursor being at its sign.  `outer` is the column of the collection
that holds it. -/
def readBlock (literal : Bool) (outer : Int) (c : Cursor) : Option (String × Cursor) := do
  let (chomping, depth, rest) := readBlockHead (c.rest.drop 1)
  let d ← (c.advance (c.rest.length - rest.length)).skipRemark?
  if !atLineEnd d.rest then none
  else
    let d := d.next
    if d.rest.head? = some '\t' then none
    else
      let (empty, column, e) := match depth with
        | some n =>
          let column := if 0 ≤ outer then outer.toNat + n else n
          let (empty, e) := skipEmptyLines column (d.rest.length + 1) 0 d
          (empty, column, e)
        | none =>
          let (empty, greatest, e) := firstColumn (d.rest.length + 1) 0 0 d
          (empty, max greatest (outer + 1).toNat, e)
      if e.rest = [] then
        some (String.ofList (emptyBlock chomping (c.line < e.line) empty), e)
      else if e.column < column ∧ outer < (e.column : Int) then none
      else
        let (b, e) := BlockText.read literal column (e.rest.length + 1)
          ⟨[], false, empty, false⟩ e
        some (String.ofList (b.finish chomping column e), e)

end Yaml

end Gatehouse
