import Gatehouse.Json.Number
import Gatehouse.Text.Hexadecimal

/-!
# Reading JSON

A text is read one character at a time by a machine, so that reading is a fold over the characters
and needs no measure to end.  A `Machine` has three parts:

* `scan` — the lexeme the last characters are in the middle of, if any: a string, one of its
  escapes, a number, a word;
* `phase` — what may come next between lexemes;
* `stack` — the arrays and objects that are still open, innermost first, with what they hold so
  far.

`Machine.step` takes a character and refuses what no JSON text can go on with.  Arrays and objects
may be open 127 deep.  When an object closes, its members are put in the order of their keys and of
several members with one key the last stays.
-/

set_option autoImplicit false

namespace Gatehouse

namespace Json

/-- An array or object that is still open, with its contents so far, last first. -/
inductive Frame where
  /-- An array. -/
  | items (done : List Json)
  /-- An object. -/
  | members (done : List (String × Json))
  /-- An object in which the value of a key is being read. -/
  | member (done : List (String × Json)) (key : String)

/-- What may come next, between lexemes. -/
inductive Phase where
  /-- A value. -/
  | value
  /-- A value, or the end of the array that has just been opened. -/
  | firstItem
  /-- A key, or the end of the object that has just been opened. -/
  | firstKey
  /-- A key. -/
  | key
  /-- The colon after a key. -/
  | colon (key : String)
  /-- A comma, or the end of the innermost array or object. -/
  | after
  /-- Only blanks. -/
  | finished (value : Json)

/-- The lexeme being read; characters are kept last first. -/
inductive Scan where
  /-- None. -/
  | between
  /-- A string. -/
  | string (done : List Char)
  /-- A string, after a backslash. -/
  | escape (done : List Char)
  /-- A string, inside a numbered escape: the leading half of a pair if there was one, the number
  of digits still to come and the value so far. -/
  | numbered (done : List Char) (lead : Option Nat) (left : Nat) (value : Nat)
  /-- A string, after the leading half of a pair; `slash` when the backslash of the other half
  has been read. -/
  | paired (done : List Char) (lead : Nat) (slash : Bool)
  /-- A number. -/
  | number (done : List Char)
  /-- A word. -/
  | word (done : List Char)

/-- The state of reading a text. -/
structure Machine where
  /-- The open arrays and objects, innermost first. -/
  stack : List Frame
  /-- What may come next. -/
  phase : Phase
  /-- The lexeme being read. -/
  scan : Scan

/-- How deep arrays and objects may be nested. -/
def depthLimit : Nat := 127

namespace Machine

/-- Nothing has been read. -/
def start : Machine := ⟨[], .value, .between⟩

/-- A value is complete. -/
def deliver (stack : List Frame) (v : Json) : Option Machine :=
  match stack with
  | [] => some ⟨[], .finished v, .between⟩
  | .items done :: rest => some ⟨.items (v :: done) :: rest, .after, .between⟩
  | .member done key :: rest => some ⟨.members ((key, v) :: done) :: rest, .after, .between⟩
  | .members _ :: _ => none

/-- A value may come next. -/
def wantsValue (m : Machine) : Bool :=
  match m.phase with
  | .value | .firstItem => true
  | _ => false

/-- Opens an array or object. -/
def push (m : Machine) (frame : Frame) (phase : Phase) : Option Machine :=
  if m.wantsValue && m.stack.length < depthLimit then some ⟨frame :: m.stack, phase, .between⟩
  else none

/-- A string is complete. -/
def endString (m : Machine) (done : List Char) : Option Machine :=
  let s := String.ofList done.reverse
  match m.phase with
  | .value | .firstItem => deliver m.stack (.text s)
  | .firstKey | .key => some { m with phase := .colon s, scan := .between }
  | _ => none

/-- A word is complete. -/
def endWord (m : Machine) (done : List Char) : Option Machine :=
  match String.ofList done.reverse with
  | "null" => deliver m.stack .null
  | "true" => deliver m.stack (.bool true)
  | "false" => deliver m.stack (.bool false)
  | _ => none

/-- A number is complete. -/
def endNumber (m : Machine) (done : List Char) : Option Machine :=
  (number? done.reverse).bind (deliver m.stack)

/-- The character separates lexemes and means nothing. -/
def isSpace (c : Char) : Bool := c = ' ' || c = '\n' || c = '\t' || c = '\r'

/-- The character may stand in a number. -/
def inNumber (c : Char) : Bool :=
  isDigit c || c = '-' || c = '+' || c = '.' || c = 'e' || c = 'E'

/-- Closes an array. -/
def closeItems (m : Machine) : Option Machine :=
  match m.phase, m.stack with
  | .firstItem, .items _ :: rest => deliver rest (.array [])
  | .after, .items done :: rest => deliver rest (.array done.reverse)
  | _, _ => none

/-- Closes an object. -/
def closeMembers (m : Machine) : Option Machine :=
  match m.phase, m.stack with
  | .firstKey, .members _ :: rest => deliver rest (.object [])
  | .after, .members done :: rest => deliver rest (.object (arranged done.reverse))
  | _, _ => none

/-- A comma. -/
def comma (m : Machine) : Option Machine :=
  match m.phase, m.stack with
  | .after, .items _ :: _ => some { m with phase := .value }
  | .after, .members _ :: _ => some { m with phase := .key }
  | _, _ => none

/-- A colon. -/
def colon (m : Machine) : Option Machine :=
  match m.phase, m.stack with
  | .colon key, .members done :: rest => some ⟨.member done key :: rest, .value, .between⟩
  | _, _ => none

/-- The string that begins may be a key or a value. -/
def beginString (m : Machine) : Option Machine :=
  match m.phase with
  | .value | .firstItem | .firstKey | .key => some { m with scan := .string [] }
  | _ => none

/-- A character between lexemes. -/
def stepBetween (m : Machine) (c : Char) : Option Machine :=
  if isSpace c then some m
  else if c = '"' then beginString m
  else if c = '[' then push m (.items []) .firstItem
  else if c = '\x7b' then push m (.members []) .firstKey
  else if c = ']' then closeItems m
  else if c = '\x7d' then closeMembers m
  else if c = ',' then comma m
  else if c = ':' then colon m
  else if !m.wantsValue then none
  else if isDigit c || c = '-' then some { m with scan := .number [c] }
  else if c.isAlpha then some { m with scan := .word [c] }
  else none

/-- The character that a short escape stands for. -/
def shortEscape? (c : Char) : Option Char :=
  if c = '"' || c = '\\' || c = '/' then some c
  else if c = 'n' then some '\n'
  else if c = 'r' then some '\r'
  else if c = 't' then some '\t'
  else if c = 'b' then some (Char.ofNat 8)
  else if c = 'f' then some (Char.ofNat 12)
  else none

/-- A numbered escape is complete: a character of its own, the leading half of a pair, or the
trailing half that completes one. -/
def endNumbered (done : List Char) (lead : Option Nat) (value : Nat) : Option Scan :=
  let leading := 0xd800 ≤ value && value < 0xdc00
  let trailing := 0xdc00 ≤ value && value < 0xe000
  match lead with
  | none =>
    if leading then some (.paired done value false)
    else if trailing then none
    else some (.string (Char.ofNat value :: done))
  | some high =>
    if trailing then
      some (.string (Char.ofNat (0x10000 + (high - 0xd800) * 0x400 + (value - 0xdc00)) :: done))
    else none

/-- Takes one character. -/
def step (m : Machine) (c : Char) : Option Machine :=
  match m.scan with
  | .between => stepBetween m c
  | .string done =>
    if c = '"' then endString m done
    else if c = '\\' then some { m with scan := .escape done }
    else if c.toNat < 32 then none
    else some { m with scan := .string (c :: done) }
  | .escape done =>
    if c = 'u' then some { m with scan := .numbered done none 4 0 }
    else (shortEscape? c).map fun e => { m with scan := .string (e :: done) }
  | .numbered done lead left value =>
    (hexValue? c).bind fun d =>
      let value := 16 * value + d
      if left ≤ 1 then (endNumbered done lead value).map fun s => { m with scan := s }
      else some { m with scan := .numbered done lead (left - 1) value }
  | .paired done lead slash =>
    if !slash && c = '\\' then some { m with scan := .paired done lead true }
    else if slash && c = 'u' then some { m with scan := .numbered done (some lead) 4 0 }
    else none
  | .number done =>
    if inNumber c then some { m with scan := .number (c :: done) }
    else (endNumber m done).bind fun m => stepBetween m c
  | .word done =>
    if c.isAlpha then some { m with scan := .word (c :: done) }
    else (endWord m done).bind fun m => stepBetween m c

/-- Takes the characters of a text one after another. -/
def run : Machine → List Char → Option Machine
  | m, [] => some m
  | m, c :: cs => (m.step c).bind fun m => run m cs

/-- The value, if the text is complete. -/
def result (m : Machine) : Option Json :=
  let m := match m.scan with
    | .number done => endNumber m done
    | .word done => endWord m done
    | .between => some m
    | _ => none
  m.bind fun m => match m.phase with
    | .finished v => some v
    | _ => none

end Machine

/-- The value that a text stands for, if it is a JSON text. -/
def read (s : String) : Option Json := (Machine.start.run s.toList).bind Machine.result

end Json

end Gatehouse
