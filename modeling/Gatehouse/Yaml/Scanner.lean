import Gatehouse.Yaml.Scalar
import Gatehouse.Yaml.Tag

/-!
# The tokens of a YAML text

The scanner turns the layout of a text into brackets: where lines are indented further a block
begins, where they are indented less it ends, and tokens say so.  What follows is then an ordinary
grammar (`Gatehouse.Yaml.Document`).

A key is only known to be one when the colon after it comes.  So whenever something stands where a
key may stand, a `KeyMark` is left there, and at the colon the token for a key, and the beginning of
a block if need be, are put in at that place.

`Scanner.step` reads one token; the fuel of `Scanner.run` bounds their number.
-/

set_option autoImplicit false

namespace Gatehouse

namespace Yaml

/-- A token. -/
inductive Token where
  /-- `%` and the rest of its line. -/
  | directive (directive : Directive)
  /-- `---`. -/
  | documentStart
  /-- `...`. -/
  | documentEnd
  /-- A list of lines begins. -/
  | blockSequence
  /-- A table of lines begins. -/
  | blockMapping
  /-- A list or table of lines ends. -/
  | blockEnd
  /-- `[`. -/
  | flowSequence
  /-- `]`. -/
  | flowSequenceEnd
  /-- An opening brace. -/
  | flowMapping
  /-- A closing brace. -/
  | flowMappingEnd
  /-- `-` before an item. -/
  | blockEntry
  /-- `,`. -/
  | flowEntry
  /-- A key comes. -/
  | key
  /-- The value of a key comes. -/
  | value
  /-- `*name`. -/
  | alias (name : String)
  /-- `&name`. -/
  | anchor (name : String)
  /-- `!tag`. -/
  | tag (tag : Tag)
  /-- A scalar, and whether it is plain. -/
  | scalar (plain : Bool) (text : String)
deriving DecidableEq

/-- A place where a key may have begun. -/
structure KeyMark where
  /-- Nothing but a key can stand there. -/
  required : Bool
  /-- The number of tokens before it. -/
  number : Nat
  /-- The line. -/
  line : Nat
  /-- The column. -/
  column : Nat
  /-- The number of characters before it. -/
  index : Nat

/-- An enclosing column, and whether a block ends when the text goes back to it. -/
structure Indent where
  /-- The column. -/
  column : Int
  /-- A token marks the end. -/
  isBlock : Bool

/-- The state of reading a text.

Between square brackets a key and its value are a table of their own, in braces that the scanner
puts in.  It does so until the first brace or question mark between brackets; from then on the
grammar finds these tables itself. -/
structure Scanner where
  /-- The place in the text. -/
  cursor : Cursor
  /-- The tokens so far, the last one first. -/
  tokens : List Token := []
  /-- The column of the innermost block. -/
  indent : Int := -1
  /-- The enclosing columns, the innermost first. -/
  indents : List Indent := []
  /-- The place where a key may have begun outside of brackets. -/
  mark : Option KeyMark := none
  /-- The same for every open bracket, the innermost first. -/
  flows : List (Option KeyMark) := []
  /-- A key may begin here. -/
  keyAllowed : Bool := true
  /-- The place where a colon needs no blank after it. -/
  adjacent : Option Nat := none
  /-- A brace or a question mark between brackets has come, and no put-in table has ended since. -/
  braced : Bool := false
  /-- A put-in table is open. -/
  tableOpen : Bool := false

namespace Scanner

/-- Some bracket is open. -/
def inFlow (s : Scanner) : Bool := !s.flows.isEmpty

/-- The mark of the innermost bracket, or the one outside of brackets. -/
def current (s : Scanner) : Option KeyMark := s.flows.head?.getD s.mark

/-- Writes the innermost mark. -/
def setCurrent (m : Option KeyMark) (s : Scanner) : Scanner :=
  match s.flows with
  | [] => { s with mark := m }
  | _ :: outer => { s with flows := m :: outer }

/-- Adds a token. -/
def emit (t : Token) (s : Scanner) : Scanner := { s with tokens := t :: s.tokens }

/-- Puts a token in after the first `number` ones. -/
def insert (number : Nat) (t : Token) (s : Scanner) : Scanner :=
  let after := s.tokens.length - number
  { s with tokens := s.tokens.take after ++ t :: s.tokens.drop after }

/-- A key may begin here, or not. -/
def allowKey (allowed : Bool) (s : Scanner) : Scanner := { s with keyAllowed := allowed }

/-- Moves the cursor. -/
def moveTo (c : Cursor) (s : Scanner) : Scanner := { s with cursor := c }

/-! ## Columns -/

/-- Forgets the columns that no block has. -/
def dropLoose (s : Scanner) : Scanner :=
  let rec go (indent : Int) : List Indent → Int × List Indent
    | [] => (indent, [])
    | i :: rest => if i.isBlock then (indent, i :: rest) else go i.column rest
  let (indent, indents) := go s.indent s.indents
  { s with indent := indent, indents := indents }

/-- Begins a block at a column unless one is open there; its token comes after the first `number`
ones, or last. -/
def openBlock (column : Nat) (number : Option Nat) (t : Token) (s : Scanner) : Scanner :=
  if s.inFlow then s
  else
    let s := match s.indents with
      | i :: rest =>
        if s.indent ≤ (column : Int) ∧ !i.isBlock then
          { s with indent := i.column, indents := rest }
        else s
      | [] => s
    if s.indent < (column : Int) then
      let s := { s with indents := ⟨s.indent, true⟩ :: s.indents, indent := column }
      match number with
      | some n => s.insert n t
      | none => s.emit t
    else s

/-- What follows must be indented further than the block. -/
def openLoose (s : Scanner) : Scanner :=
  match s.indents with
  | i :: _ =>
    if !s.inFlow && i.isBlock then
      { s with indents := ⟨s.indent, false⟩ :: s.indents, indent := s.indent + 1 }
    else s
  | [] => s

/-- Ends the blocks beyond a column. -/
def closeBlocks (column : Int) (s : Scanner) : Scanner :=
  let rec go (indent : Int) (tokens : List Token) : List Indent → Int × List Token × List Indent
    | [] => (indent, tokens, [])
    | i :: rest =>
      if column < indent then go i.column (if i.isBlock then .blockEnd :: tokens else tokens) rest
      else (indent, tokens, i :: rest)
  if s.inFlow then s
  else
    let (indent, tokens, indents) := go s.indent s.tokens s.indents
    { s with indent := indent, tokens := tokens, indents := indents }

/-! ## Keys -/

/-- A key may begin here: leaves a mark. -/
def leaveMark (s : Scanner) : Scanner :=
  if s.keyAllowed then
    let block := (s.indents.head?.map Indent.isBlock).getD false
    s.setCurrent (some {
      required := !s.inFlow && s.indent == s.cursor.column && block
      number := s.tokens.length
      line := s.cursor.line
      column := s.cursor.column
      index := s.cursor.index })
  else s

/-- Removes the innermost mark, which must not be required. -/
def removeMark (s : Scanner) : Option Scanner :=
  if (s.current.map KeyMark.required).getD false then none else some (s.setCurrent none)

/-- Outside of brackets a key stands on one line and is not too long: removes a mark that is too
far away. -/
def dropStale (s : Scanner) : Option Scanner :=
  match s.mark with
  | some m =>
    if !s.inFlow && (m.line < s.cursor.line || m.index + 1024 < s.cursor.index) then s.removeMark
    else some s
  | none => some s

/-! ## Blanks -/

/-- Skips blanks, comments and line ends before a token; the fuel bounds the number of steps.  A
tab must not indent a line of a block. -/
def skipBlanks : Nat → Scanner → Option Scanner
  | 0, _ => none
  | fuel + 1, s =>
    match s.cursor.rest with
    | [] => some s
    | x :: _ =>
      if x = '\t' ∧ s.cursor.fresh ∧ !s.indents.isEmpty ∧ (s.cursor.column : Int) < s.indent then do
        let d ← s.cursor.skipRemark?
        if atLineEnd d.rest then skipBlanks fuel (s.moveTo d) else none
      else if isBlank x then skipBlanks fuel (s.moveTo s.cursor.next)
      else if isBreak x then
        skipBlanks fuel ((s.moveTo s.cursor.next).allowKey (s.keyAllowed || !s.inFlow))
      else if x = '#' then skipBlanks fuel (s.moveTo (s.cursor.skip fun c => !isBreak c))
      else some s

/-- Skips blanks, comments and line ends up to the next token. -/
def toToken (s : Scanner) : Option Scanner := s.skipBlanks (s.cursor.rest.length + 1)

/-- Skips spaces, comments and line ends, where no tab may stand, up to the next token; the fuel
bounds the number of steps. -/
def skipSpaces : Nat → Scanner → Option Scanner
  | 0, _ => none
  | fuel + 1, s =>
    match s.cursor.rest with
    | [] => some s
    | x :: _ =>
      if x = '\t' then none
      else if x = ' ' then skipSpaces fuel (s.moveTo s.cursor.next)
      else if isBreak x then
        skipSpaces fuel ((s.moveTo s.cursor.next).allowKey (s.keyAllowed || !s.inFlow))
      else if x = '#' then skipSpaces fuel (s.moveTo (s.cursor.skip fun c => !isBreak c))
      else some s

/-- Moves over `n` characters and the blanks and the comment after them. -/
def pass (n : Nat) (s : Scanner) : Option Scanner :=
  (s.cursor.advance n).skipRemark?.map s.moveTo

/-! ## Tokens -/

/-- Reads a directive. -/
def directive (s : Scanner) : Option Scanner := do
  let s ← (s.closeBlocks (-1)).removeMark
  let (directive, c) ← Directive.read s.cursor
  some (((s.allowKey false).emit (.directive directive)).moveTo c)

/-- Reads the mark of a document. -/
def documentMark (sign : Char) (s : Scanner) : Option Scanner := do
  let s ← (s.closeBlocks (-1)).removeMark
  let s := s.allowKey false
  if sign = '.' then
    let s ← (s.emit .documentEnd).pass 3
    if atLineEnd s.cursor.rest then some s else none
  else some ((s.emit .documentStart).moveTo (s.cursor.advance 3))

/-- The number of brackets that may be open at a time. -/
def maxDepth : Nat := 255

/-- Ends the put-in table, if one is open. -/
def closeTable (s : Scanner) : Scanner :=
  if s.tableOpen then { s with tableOpen := false, braced := false }.emit .flowMappingEnd else s

/-- Reads an opening bracket. -/
def openFlow (t : Token) (s : Scanner) : Option Scanner :=
  if s.flows.length = maxDepth then none
  else
    let s := s.leaveMark.openLoose
    let s := { s with flows := none :: s.flows, braced := s.braced || t == Token.flowMapping }
    ((s.allowKey true).emit t).pass 1

/-- Reads a closing bracket. -/
def closeFlow (t : Token) (s : Scanner) : Option Scanner := do
  let s ← s.removeMark
  let s := ({ s with flows := s.flows.tail }.allowKey false).closeTable
  let s ← (s.emit t).pass 1
  some (if s.inFlow then { s with adjacent := some s.cursor.index } else s)

/-- Reads a comma. -/
def flowEntry (s : Scanner) : Option Scanner := do
  let s ← s.removeMark
  ((s.allowKey true).closeTable.emit .flowEntry).pass 1

/-- Reads the sign before an item. -/
def blockEntry (s : Scanner) : Option Scanner := do
  if s.inFlow || !s.keyAllowed then none
  else
    let column := s.cursor.column
    let s := (s.moveTo s.cursor.next).openBlock column none .blockSequence
    let blanks := s.cursor.rest.takeWhile isBlank
    let d := s.cursor.skip isBlank
    if '\t' ∈ blanks ∧ d.rest.head? = some '-' ∧ atGap (d.rest.drop 1) then none
    else
      let s ← (s.cursor.skipRemark?).map s.moveTo
      let s := match s.cursor.rest with
        | x :: _ => if isBreak x || isFlowSign x then s.openLoose else s
        | [] => s
      let s ← s.removeMark
      some ((s.allowKey true).emit .blockEntry)

/-- Reads the sign before a key.  A space or a line end must follow. -/
def explicitKey (s : Scanner) : Option Scanner := do
  if !s.inFlow && !s.keyAllowed then none
  else
    let s := s.openBlock s.cursor.column none .blockMapping
    let s ← { s with braced := s.braced || s.inFlow }.removeMark
    let s := (s.allowKey (!s.inFlow)).moveTo s.cursor.next
    if s.cursor.rest = [] then none
    else
      let s ← s.skipSpaces (s.cursor.rest.length + 1)
      some (s.emit .key)

/-- Moves over the colon before a value.  After a tab, a hyphen or a character of a word needs a
space before it. -/
def passColon (s : Scanner) : Option Scanner :=
  let c := s.cursor.next
  if c.rest.head? = some '\t' then do
    let d ← c.skipRemark?
    let blanks := c.rest.takeWhile isBlank
    if !blanks.contains ' ' && (d.rest.head?.map isWordChar).getD false then none
    else some (s.moveTo d)
  else some (s.moveTo c)

/-- Reads the sign before a value.  The key of a table that is put in stands on the same line. -/
def value (s : Scanner) : Option Scanner := do
  let column := s.cursor.column
  let line := s.cursor.line
  let s := { s with tableOpen := s.inFlow && !s.braced }
  let s ← s.passColon
  match s.current with
  | some m =>
    if s.tableOpen && m.line < line then none
    else
      let s := s.insert m.number .key
      let s := if s.tableOpen then s.insert m.number .flowMapping else s
      let s := (s.openBlock m.column (some m.number) .blockMapping).openLoose
      some (((s.setCurrent none).allowKey false).emit .value)
  | none =>
    let s := if s.tableOpen then s.emit .flowMapping else s
    if !s.inFlow && !s.keyAllowed then none
    else
      let s := (s.openBlock column none .blockMapping).openLoose
      some ((s.allowKey (!s.inFlow)).emit .value)

/-- A character of the name of an anchor. -/
def isNameChar (c : Char) : Bool :=
  !isBlank c && !isBreak c && !isFlowSign c && c.toNat != 0xfeff

/-- Reads an anchor or an alias. -/
def name (token : String → Token) (s : Scanner) : Option Scanner :=
  let s := s.leaveMark.allowKey false
  let text := (s.cursor.rest.drop 1).takeWhile isNameChar
  if text = [] then none
  else some ((s.emit (token (String.ofList text))).moveTo (s.cursor.advance (text.length + 1)))

/-- Reads a tag. -/
def tag (s : Scanner) : Option Scanner := do
  let s := s.leaveMark.allowKey false
  let (tag, c) ← Tag.read s.inFlow s.cursor
  some ((s.emit (.tag tag)).moveTo c)

/-- Reads a text between quotes.  A colon that is the next token needs no blank after it. -/
def quoted (double : Bool) (s : Scanner) : Option Scanner := do
  let s := s.leaveMark.allowKey false
  let (text, c) ← readQuoted s.inFlow double s.indent s.cursor
  let s ← ((s.emit (.scalar false text)).moveTo c).toToken
  some { s with adjacent := some s.cursor.index }

/-- Reads a plain scalar. -/
def plain (s : Scanner) : Option Scanner := do
  let s := (s.leaveMark.allowKey false).dropLoose
  let (text, c) ← readPlain s.inFlow (s.indent + 1) s.cursor
  some (((s.allowKey c.fresh).emit (.scalar true text)).moveTo c)

/-- Reads a block of lines. -/
def block (literal : Bool) (s : Scanner) : Option Scanner := do
  let s := (s.leaveMark.allowKey true).dropLoose
  let (text, c) ← readBlock literal s.indent s.cursor
  some ((s.emit (.scalar false text)).moveTo c)

/-- Reads the token that begins with a character. -/
def token (x : Char) (rest : List Char) (s : Scanner) : Option Scanner :=
  let colon := atGap rest || s.inFlow &&
    ((rest.head?.map isFlowSign) == some true || s.adjacent == some s.cursor.index)
  if x = '[' then s.openFlow .flowSequence
  else if x = '\x7b' then s.openFlow .flowMapping
  else if x = ']' then s.closeFlow .flowSequenceEnd
  else if x = '\x7d' then s.closeFlow .flowMappingEnd
  else if x = ',' then s.flowEntry
  else if x = '-' ∧ atGap rest then s.blockEntry
  else if x = '?' ∧ atGap rest then s.explicitKey
  else if x = ':' ∧ colon then s.value
  else if x = '*' then s.name .alias
  else if x = '&' then s.name .anchor
  else if x = '!' then s.tag
  else if x = '|' ∧ !s.inFlow then s.block true
  else if x = '>' ∧ !s.inFlow then s.block false
  else if x = '\'' then s.quoted false
  else if x = '"' then s.quoted true
  else if x = '%' ∨ x = '@' ∨ x.toNat = 96 then none
  else s.plain

/-- The text has ended: ends all blocks. -/
def finish (s : Scanner) : Option (List Token) :=
  if (s.mark.map KeyMark.required).getD false then none
  else some (s.closeBlocks (-1)).tokens.reverse

/-- Reads the rest of a text; the fuel bounds the number of tokens. -/
def run : Nat → Scanner → Option (List Token)
  | 0, _ => none
  | fuel + 1, s => do
    let s ← s.toToken
    let s ← s.dropStale
    let s := s.closeBlocks s.cursor.column
    match s.cursor.rest with
    | [] => s.finish
    | x :: rest =>
      if s.cursor.column = 0 ∧ x = '%' then run fuel (← s.directive)
      else match if s.cursor.column = 0 then documentMark? (x :: rest) else none with
        | some sign => run fuel (← s.documentMark sign)
        | none =>
          if (s.cursor.column : Int) < s.indent then none
          else run fuel (← s.token x rest)

end Scanner

/-- The tokens of a text, which ends before its first null character if it has one. -/
def tokens? (s : String) : Option (List Token) :=
  let cs := s.toList.takeWhile fun c => c.toNat != 0
  Scanner.run (cs.length + 1) { cursor := .start cs }

end Yaml

end Gatehouse
