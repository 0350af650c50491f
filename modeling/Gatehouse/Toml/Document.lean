import Gatehouse.Toml.Scalar

/-!
# TOML documents

A document is a sequence of statements: values under keys, and headers that open a table.  A key
with dots, and a header with dots, opens the tables on the way.

While a document is read its tables are kept as a `Node`, which remembers how a table came about,
because that decides who may still add to it: a table made on the way to another one may get a
header of its own later, but only once; a table made by a key with dots may not; and what is written
as a value is closed.  In the end `Node.toJson` forgets all that.
-/

set_option autoImplicit false

namespace Gatehouse

namespace Toml

/-! ## Tables -/

/-- How a table came about. -/
inductive Origin where
  /-- It has a header. -/
  | header
  /-- It was passed on the way to a header. -/
  | implied
  /-- It was passed on the way of a key with dots. -/
  | dotted
deriving DecidableEq

/-- A value or a table of a document. -/
inductive Node where
  /-- A value, which is closed. -/
  | value (v : Json)
  /-- A table. -/
  | table (origin : Origin) (members : List (String × Node))
  /-- An array of tables; the last one is open. -/
  | tables (items : List (List (String × Node)))

/-- The members of a table. -/
abbrev Members := List (String × Node)

mutual

/-- A node without its history. -/
def Node.toJson : Node → Json
  | .value v => v
  | .table _ members => .object (membersToJson members)
  | .tables items => .array (itemsToJson items)

/-- Members without their history. -/
def membersToJson : List (String × Node) → List (String × Json)
  | [] => []
  | (k, n) :: rest => (k, n.toJson) :: membersToJson rest

/-- Tables without their history. -/
def itemsToJson : List (List (String × Node)) → List Json
  | [] => []
  | members :: rest => .object (membersToJson members) :: itemsToJson rest

end

namespace Members

/-- Writes a member in place of the one with its key, or after all others. -/
def set (key : String) (n : Node) : Members → Members
  | [] => [(key, n)]
  | (k, m) :: rest => if k = key then (k, n) :: rest else (k, m) :: set key n rest

/-- Changes the table at a path, and opens the tables on the way.  A key with dots (`dotted`) must
not enter a table that has a header of its own, and it must not end in one that keys with dots have
not made. -/
def change (dotted : Bool) (f : Members → Option Members) :
    List String → Members → Option Members
  | [], ms => f ms
  | key :: path, ms =>
    match ms.lookup key with
    | none =>
      (change dotted f path []).map fun inner =>
        set key (.table (if dotted then .dotted else .implied) inner) ms
    | some (.table origin inner) =>
      if dotted && (origin = .header || path = [] && origin ≠ .dotted) then none
      else (change dotted f path inner).map fun inner => set key (.table origin inner) ms
    | some (.tables items) =>
      if dotted && path = [] then none
      else match items.reverse with
        | [] => none
        | last :: before =>
          (change dotted f path last).map fun last =>
            set key (.tables (last :: before).reverse) ms
    | some (.value _) => none

/-- Adds a member, which must be new. -/
def add (key : String) (n : Node) (ms : Members) : Option Members :=
  match ms.lookup key with
  | none => some (ms ++ [(key, n)])
  | some _ => none

/-- Opens a table with a header. -/
def openTable (key : String) (ms : Members) : Option Members :=
  match ms.lookup key with
  | none => some (ms ++ [(key, .table .header [])])
  | some (.table .implied inner) => some (set key (.table .header inner) ms)
  | some _ => none

/-- Opens a further table of an array. -/
def openItem (key : String) (ms : Members) : Option Members :=
  match ms.lookup key with
  | none => some (ms ++ [(key, .tables [[]])])
  | some (.tables items) => some (set key (.tables (items ++ [[]])) ms)
  | some _ => none

end Members

/-- The keys before the last one, and the last one. -/
def splitLast? (keys : List String) : Option (List String × String) :=
  match keys.reverse with
  | [] => none
  | last :: before => some (before.reverse, last)

/-- Adds a value under a key with dots. -/
def Members.addAt (keys : List String) (v : Json) (ms : Members) : Option Members := do
  let (path, key) ← splitLast? keys
  ms.change true (·.add key (.value v)) path

/-! ## Blanks and comments -/

/-- The characters without the spaces and tabs at their start. -/
def skipSpaces (cs : List Char) : List Char := cs.dropWhile fun c => c == ' ' || c == '\t'

/-- The characters after a comment, if there is one; `none` if it holds a character that it must
not. -/
def skipComment : List Char → Option (List Char)
  | '#' :: cs =>
    let (comment, rest) := cs.span fun c => c != '\n' && c != '\r'
    if comment.all isPrintable then some rest else none
  | cs => some cs

/-- Skips spaces, comments and line ends; the fuel bounds the number of lines. -/
def skipLines : Nat → List Char → Option (List Char)
  | 0, _ => none
  | fuel + 1, cs => do
    let cs ← skipComment (skipSpaces cs)
    match lineEnd? cs with
    | some rest => skipLines fuel rest
    | none => some cs

/-- Skips what may stand between the items of an array. -/
def skipAll (cs : List Char) : Option (List Char) := skipLines (cs.length + 1) cs

/-! ## Keys -/

/-- A character of a key without quotes. -/
def isKeyChar (c : Char) : Bool := c.isAlphanum || c == '_' || c == '-'

/-- Reads a key without dots. -/
def readKey (cs : List Char) : Option (String × List Char) :=
  match cs with
  | '"' :: rest => (readBasic 0 rest).map fun (s, rest) => (String.ofList s, rest)
  | '\'' :: rest => (readLiteral rest).map fun (s, rest) => (String.ofList s, rest)
  | cs =>
    match cs.span isKeyChar with
    | ([], _) => none
    | (key, rest) => some (String.ofList key, rest)

/-- The number of parts that a key may have, and of brackets and braces that may be open at a
time. -/
def maxDepth : Nat := 80

/-- Reads the parts of a key with dots; the fuel bounds their number. -/
def readParts : Nat → List Char → Option (List String × List Char)
  | 0, _ => none
  | fuel + 1, cs => do
    let (key, cs) ← readKey (skipSpaces cs)
    match skipSpaces cs with
    | '.' :: rest =>
      let (keys, rest) ← readParts fuel rest
      some (key :: keys, rest)
    | rest => some ([key], rest)

/-- Reads a key, dots included. -/
def readKeys (cs : List Char) : Option (List String × List Char) := readParts maxDepth cs

/-! ## Values -/

mutual

/-- Reads a value; `depth` is the number of brackets that may still be opened, and the fuel bounds
the number of parts. -/
def readValue (depth : Nat) : Nat → List Char → Option (Json × List Char)
  | 0, _ => none
  | fuel + 1, cs =>
    match cs with
    | '[' :: rest => do
      if depth = 0 then none
      else
        let (items, rest) ← readItems (depth - 1) fuel rest
        some (.array items, rest)
    | '\x7b' :: rest => do
      if depth = 0 then none
      else
        let (members, rest) ← readMembers (depth - 1) fuel [] rest
        some (.object (membersToJson members), rest)
    | '"' :: _ => (readString cs).map fun (s, rest) => (.text s, rest)
    | '\'' :: _ => (readString cs).map fun (s, rest) => (.text s, rest)
    | cs => readWord cs

/-- Reads the items of an array, up to its end. -/
def readItems (depth : Nat) : Nat → List Char → Option (List Json × List Char)
  | 0, _ => none
  | fuel + 1, cs => do
    match ← skipAll cs with
    | ']' :: rest => some ([], rest)
    | cs =>
      let (v, cs) ← readValue depth fuel cs
      match ← skipAll cs with
      | ']' :: rest => some ([v], rest)
      | ',' :: rest =>
        let (vs, rest) ← readItems depth fuel rest
        some (v :: vs, rest)
      | _ => none

/-- Reads the members of a table between braces, up to its end.  Line ends and comments may stand
around keys, equals signs and values. -/
def readMembers (depth : Nat) : Nat → Members → List Char → Option (Members × List Char)
  | 0, _, _ => none
  | fuel + 1, members, cs => do
    match ← skipAll cs with
    | '\x7d' :: rest => some (members, rest)
    | cs =>
      let (keys, cs) ← readKeys cs
      let (_, cs) ← expect '=' (← skipAll cs)
      let (v, cs) ← readValue depth fuel (← skipAll cs)
      let members ← members.addAt keys v
      match ← skipAll cs with
      | '\x7d' :: rest => some (members, rest)
      | ',' :: rest => readMembers depth fuel members rest
      | _ => none

end

/-! ## Statements -/

/-- A document as far as it has been read: its tables, and the path of the open one. -/
structure Document where
  /-- The outermost table. -/
  root : Members := []
  /-- The path of the open table. -/
  current : List String := []

/-- Reads the keys of a header and its closing brackets. -/
def readHeader (brackets : List Char) (cs : List Char) : Option (List String × List Char) := do
  let (keys, cs) ← readKeys cs
  if cs.take brackets.length = brackets then some (keys, cs.drop brackets.length) else none

namespace Document

/-- Opens the table of a header with `openLast`. -/
def enter (d : Document) (keys : List String)
    (openLast : String → Members → Option Members) : Option Document := do
  let (path, key) ← splitLast? keys
  let root ← d.root.change false (openLast key) path
  some ⟨root, keys⟩

/-- Adds a value to the open table. -/
def add (d : Document) (keys : List String) (v : Json) : Option Document := do
  let root ← d.root.change false (·.addAt keys v) d.current
  some { d with root := root }

/-- Reads a statement. -/
def statement (d : Document) (cs : List Char) : Option (Document × List Char) :=
  match cs with
  | '[' :: '[' :: rest => do
    let (keys, rest) ← readHeader [']', ']'] rest
    some (← d.enter keys Members.openItem, rest)
  | '[' :: rest => do
    let (keys, rest) ← readHeader [']'] rest
    some (← d.enter keys Members.openTable, rest)
  | cs => do
    let (keys, cs) ← readKeys cs
    let (_, cs) ← expect '=' cs
    let (v, rest) ← readValue maxDepth (cs.length + 1) (skipSpaces cs)
    some (← d.add keys v, rest)

/-- Reads statements, each on a line of its own; the fuel bounds their number. -/
def statements : Nat → Document → List Char → Option Document
  | 0, _, _ => none
  | fuel + 1, d, cs => do
    match ← skipAll cs with
    | [] => some d
    | cs =>
      let (d, cs) ← d.statement cs
      match ← skipComment (skipSpaces cs) with
      | [] => some d
      | cs => statements fuel d (← lineEnd? cs)

end Document

/-- The table that a text stands for.  A mark for the order of bytes at its start does not count. -/
def read (s : String) : Option Json :=
  let cs := match s.toList with
    | c :: rest => if c.toNat = 0xfeff then rest else c :: rest
    | [] => []
  (Document.statements (cs.length + 1) {} cs).map fun d => .object (membersToJson d.root)

end Toml

end Gatehouse
