import Gatehouse.Decimal.Real
import Gatehouse.Json.Value
import Gatehouse.Text.Truth
import Gatehouse.Yaml.Scanner

/-!
# YAML documents

The tokens of a text form one document: a scalar, a list or a table.  A plain scalar is the value
that its text looks like; any other scalar is a text.  A name given to a value stands for it
afterwards.

A plain scalar whose tag it does not fit, and the name of a value that is not complete yet, stand
for no value.  No value counts as null, but it is never a key: what follows takes its place.

`Yaml.read` wants at most one document, and the keys of its tables must be scalars other than null.
A text without a document is an empty table.
-/

set_option autoImplicit false

namespace Gatehouse

namespace Yaml

/-! ## Values -/

/-- A value without parts, or no value.  A number with a point or an exponent is kept as it was
written. -/
inductive Scalar where
  | missing
  | null
  | bool (value : Bool)
  | int (value : Int)
  | real (text : String)
  | text (value : String)
deriving DecidableEq

/-- A value. -/
inductive Node where
  /-- A scalar. -/
  | scalar (value : Scalar)
  /-- A list. -/
  | list (items : List Node)
  /-- A table. -/
  | table (members : List (Node × Node))
deriving Inhabited, BEq

namespace Scalar

/-- The integer that digits of a base stand for, with a sign before them or not. -/
def inBase? (base : Nat) (cs : List Char) : Option Int :=
  let magnitude (digits : List Char) : Option Int :=
    if digits = [] then none
    else (digits.foldlM (fun n c => (hexValue? c).bind fun d =>
      if d < base then some (base * n + d) else none) 0).map Int.ofNat
  let value := match cs with
    | '-' :: digits => (magnitude digits).map Int.neg
    | '+' :: digits => magnitude digits
    | digits => magnitude digits
  value.filter fun n => int64Low ≤ n && n ≤ int64High

/-- The integer that a plain scalar stands for. -/
def int? (text : List Char) : Option Int :=
  let decimal := boundedInteger? int64Low int64High
  let marked := match text with
    | '0' :: 'x' :: digits => inBase? 16 digits
    | '0' :: 'o' :: digits => inBase? 8 digits
    | '+' :: digits => decimal digits
    | _ => none
  marked.or (decimal text)

/-- The words for the numbers that have no digits. -/
def wordsForReals : List String :=
  [".inf", ".Inf", ".INF", "+.inf", "+.Inf", "+.INF", "-.inf", "-.Inf", "-.INF",
   ".nan", ".NaN", ".NAN"]

/-- A plain scalar stands for a number with a point or an exponent. -/
def isReal (text : String) : Bool :=
  wordsForReals.contains text || text.toList.any isDigit && (real? text).isSome

/-- The truth value that a word stands for. -/
def truth? (text : String) : Option Bool :=
  if ["true", "True", "TRUE"].contains text then some true
  else if ["false", "False", "FALSE"].contains text then some false
  else none

/-- The value that a plain scalar looks like. -/
def ofPlain (text : String) : Scalar :=
  match int? text.toList with
  | some n => .int n
  | none =>
    if text = "" ∨ text = "~" ∨ text = "null" then .null
    else match truth? text with
      | some b => .bool b
      | none => if isReal text then .real text else .text text

/-- The value of a plain scalar whose tag has the core address.  Other suffixes than the four here
leave it a text. -/
def ofCore (suffix text : String) : Scalar :=
  if suffix = "bool" then ((truth? text).map .bool).getD .missing
  else if suffix = "int" then
    ((boundedInteger? int64Low int64High text.toList).map .int).getD .missing
  else if suffix = "float" then if isReal text then .real text else .missing
  else if suffix = "null" then if text = "~" ∨ text = "null" then .null else .missing
  else .text text

/-- The value of a scalar as it was written. -/
def ofSpelling (tag : Option Tag) (plain : Bool) (text : String) : Scalar :=
  if !plain then .text text
  else match tag with
    | none => ofPlain text
    | some t => if t.handle = Tag.coreAddress then ofCore t.suffix text else .text text

/-- A scalar as a JSON value.  The words for numbers without digits stand for no value. -/
def toJson? : Scalar → Option Json
  | .missing | .null => some .null
  | .bool b => some (.bool b)
  | .int n => some (.int n)
  | .real written => (real? written).map .real
  | .text s => some (.text s)

/-- The key that a scalar stands for. -/
def toKey? : Scalar → Option String
  | .missing | .null => none
  | .bool b => some (truthText b)
  | .int n => some (showInt n)
  | .real written => some written
  | .text s => some s

end Scalar

mutual

/-- A value as a JSON value.  Of several keys with the same text the last stays. -/
def Node.toJson? : Node → Option Json
  | .scalar s => s.toJson?
  | .list items => (itemsToJson? items).map .array
  | .table members => (membersToJson? members).map fun ms => .object (Json.arranged ms)

@[inherit_doc Node.toJson?] def itemsToJson? : List Node → Option (List Json)
  | [] => some []
  | n :: rest => do
    let v ← n.toJson?
    let vs ← itemsToJson? rest
    some (v :: vs)

@[inherit_doc Node.toJson?] def membersToJson? : List (Node × Node) → Option (List (String × Json))
  | [] => some []
  | (.scalar s, n) :: rest => do
    let k ← s.toKey?
    let v ← n.toJson?
    let ms ← membersToJson? rest
    some ((k, v) :: ms)
  | _ :: _ => none

end

/-- Pairs each key with the value after it.  No value is no key, and a last key without a value
does not count.  No key may come twice. -/
def pairUp (done : List (Node × Node)) : Option Node → List Node → Option (List (Node × Node))
  | _, [] => some done
  | none, n :: rest =>
    match n with
    | .scalar .missing => pairUp done none rest
    | _ => pairUp done (some n) rest
  | some k, n :: rest =>
    if (done.lookup k).isSome then none else pairUp (done ++ [(k, n)]) none rest

/-! ## The grammar -/

/-- The tokens still to be read, what handles stand for, and the values that have names. -/
structure Reading where
  /-- The tokens from here on. -/
  tokens : List Token
  /-- What handles stand for. -/
  handles : List (String × String) := []
  /-- The names given so far and their values, the latest first.  A value that is not complete yet
  is no value. -/
  names : List (String × Node) := []

/-- A part of the grammar: it reads a value from the tokens, or refuses them. -/
abbrev Grammar := StateT Reading Option

namespace Grammar

/-- The next token. -/
def peek : Grammar (Option Token) := fun r => some (r.tokens.head?, r)

/-- Passes over the next token. -/
def skip : Grammar Unit := fun r => some ((), { r with tokens := r.tokens.tail })

/-- Refuses the text. -/
def refuse {α : Type} : Grammar α := fun _ => none

/-- Passes over the next token if it is the given one, and tells whether it was. -/
def accept (t : Token) : Grammar Bool := do
  if (← peek) == some t then
    skip
    return true
  else return false

/-- The null value. -/
def absent : Node := .scalar .null

/-- The value with a name. -/
def named (name : String) : Grammar Node := fun r => (r.names.lookup name).map (·, r)

/-- Gives a name to the value that comes, and tells how many names were given before. -/
def giveName (name : String) : Grammar Nat := fun r =>
  some (r.names.length, { r with names := (name, .scalar .missing) :: r.names })

/-- Completes the value with the name before which `number` names were given, if there is one. -/
def complete (number : Option Nat) (n : Node) : Grammar Node := fun r =>
  match number with
  | none => some (n, r)
  | some number =>
    let i := r.names.length - 1 - number
    some (n, { r with names := r.names.modify i fun (name, _) => (name, n) })

/-- The address that the handle of a tag stands for. -/
def resolve (t : Tag) : Grammar Tag := fun r => (t.resolve? r.handles).map (·, r)

/-- The anchor and the tag before a value, in either order. -/
def properties : Grammar (Option Nat × Option Tag) := do
  match ← peek with
  | some (.anchor x) =>
    skip
    let number ← giveName x
    match ← peek with
    | some (.tag t) => skip; return (some number, some (← resolve t))
    | _ => return (some number, none)
  | some (.tag t) =>
    skip
    let t ← resolve t
    match ← peek with
    | some (.anchor x) => skip; return (some (← giveName x), some t)
    | _ => return (none, some t)
  | _ => return (none, none)

/-- No value stands before these tokens inside a table of lines. -/
def endsInBlock : Option Token → Bool
  | some .key | some .value | some .blockEnd => true
  | _ => false

/-- No value stands before these tokens inside a list of lines. -/
def endsInItems : Option Token → Bool
  | some .blockEntry | some .key | some .value | some .blockEnd => true
  | _ => false

/-- A member between braces ends before these tokens. -/
def endsMember : Option Token → Bool
  | some .flowEntry | some .flowMappingEnd => true
  | _ => false

/-- An item between square brackets ends before these tokens. -/
def endsItem : Option Token → Bool
  | some .flowEntry | some .flowSequenceEnd => true
  | _ => false

/-- The table of keys and values in turn. -/
def tableOf (nodes : List Node) : Grammar Node := fun r =>
  (pairUp [] none nodes).map (Node.table ·, r)

mutual

/-- Reads a value.  `block` allows blocks of lines, and `loose` a list whose items are not indented
further than the key they belong to.  The fuel of these readers bounds their depth. -/
def node (block loose : Bool) : Nat → Grammar Node
  | 0 => refuse
  | fuel + 1 => do
    match ← peek with
    | some (.alias x) => skip; named x
    | _ =>
      let (number, tag) ← properties
      match ← peek with
      | some (.scalar plain text) =>
        skip
        complete number (.scalar (.ofSpelling tag plain text))
      | some .flowSequence => skip; complete number (.list (← brackets [] fuel))
      | some .flowMapping => skip; complete number (← tableOf (← braces [] fuel))
      | some .blockSequence =>
        if block then
          skip
          complete number (.list (← items true [] fuel))
        else refuse
      | some .blockMapping =>
        if block then
          skip
          complete number (← tableOf (← members [] fuel))
        else refuse
      | some .blockEntry =>
        if loose then complete number (.list (← items false [] fuel))
        else if number.isSome || tag.isSome then complete number (.scalar (.ofSpelling tag true ""))
        else refuse
      | _ =>
        if number.isSome || tag.isSome then complete number (.scalar (.ofSpelling tag true ""))
        else refuse

/-- Reads the items of a list of lines.  If it is `closed` a token marks its end. -/
def items (closed : Bool) (done : List Node) : Nat → Grammar (List Node)
  | 0 => refuse
  | fuel + 1 => do
    if ← accept .blockEntry then
      let next ← peek
      let n ← if endsInItems next then pure absent else node true false fuel
      items closed (done ++ [n]) fuel
    else if !closed then return done
    else if ← accept .blockEnd then return done
    else refuse

/-- Reads the keys and values of a table of lines in turn. -/
def members (done : List Node) : Nat → Grammar (List Node)
  | 0 => refuse
  | fuel + 1 => do
    if ← accept .blockEnd then return done
    else
      let k ←
        if ← accept .key then
          if endsInBlock (← peek) then pure absent else node true true fuel
        else if (← peek) == some .value then pure absent
        else refuse
      let v ←
        if ← accept .value then
          if endsInBlock (← peek) then pure absent else node true true fuel
        else pure absent
      members (done ++ [k, v]) fuel

/-- Reads the items between square brackets, up to the closing one. -/
def brackets (done : List Node) : Nat → Grammar (List Node)
  | 0 => refuse
  | fuel + 1 => do
    if ← accept .flowSequenceEnd then return done
    else
      let n ← bracketItem fuel
      if ← accept .flowEntry then brackets (done ++ [n]) fuel
      else if ← accept .flowSequenceEnd then return (done ++ [n])
      else refuse

/-- Reads an item between square brackets; a key and its value are a table of their own.  Where the
key is missing, the token in its place is passed over. -/
def bracketItem : Nat → Grammar Node
  | 0 => refuse
  | fuel + 1 => do
    if ← accept .key then
      let next ← peek
      let k ←
        if next == some .value || endsItem next then do skip; pure absent
        else node false false fuel
      let v ←
        if ← accept .value then
          if endsItem (← peek) then pure absent else node false false fuel
        else pure absent
      tableOf [k, v]
    else node false false fuel

/-- Reads the keys and values between braces in turn, up to the closing one.  What is not marked as
a key has no value. -/
def braces (done : List Node) : Nat → Grammar (List Node)
  | 0 => refuse
  | fuel + 1 => do
    if ← accept .flowMappingEnd then return done
    else
      let isKey ← accept .key
      let next ← peek
      let k ←
        if next == some .value || isKey && endsMember next then pure absent
        else node false false fuel
      let v ←
        if isKey || next == some .value then
          if ← accept .value then
            if endsMember (← peek) then pure absent else node false false fuel
          else pure absent
        else pure absent
      let done := done ++ [k, v]
      if ← accept .flowEntry then braces done fuel
      else if ← accept .flowMappingEnd then return done
      else refuse

end

end Grammar

/-- The tokens after the marks of ended documents. -/
def dropEnds (tokens : List Token) : List Token := tokens.dropWhile (· = .documentEnd)

/-- Reads the directives before a document: the tokens after them, and what the last of them says
that a handle stands for.  The version may be told once. -/
def directives (versioned : Bool) (handles : List (String × String)) :
    List Token → Option (List (String × String) × List Token)
  | .directive d :: rest =>
    match d with
    | .version => if versioned then none else directives true [] rest
    | .declare handle address => directives versioned [(handle, address)] rest
    | .unknown => directives versioned [] rest
  | tokens => some (handles, tokens)

/-- What is to be read of the first document, if there is one.  Directives need the mark of a
beginning after them. -/
def content? (tokens : List Token) : Option (Option Reading) :=
  match dropEnds tokens with
  | [] => some none
  | tokens => do
    let (handles, rest) ← directives false [] tokens
    match rest with
    | .documentStart :: rest => some (some { tokens := rest, handles })
    | _ => if rest.length = tokens.length then some (some { tokens := rest }) else none

/-- The document that tokens form; there is no second one. -/
def document? (r : Reading) : Option Node :=
  match r.tokens with
  | [] | .directive _ :: _ | .documentStart :: _ | .documentEnd :: _ =>
    if dropEnds r.tokens = [] then some Grammar.absent else none
  | _ => do
    let (n, r) ← Grammar.node true false (4 * (r.tokens.length + 1)) r
    if dropEnds r.tokens = [] then some n else none

/-- The value that a text stands for. -/
def read (s : String) : Option Json :=
  match (tokens? s).bind content? with
  | none => none
  | some none => some (.object [])
  | some (some r) => (document? r).bind Node.toJson?

end Yaml

end Gatehouse
