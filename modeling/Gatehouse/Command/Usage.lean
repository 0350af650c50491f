/-!
# Reading a command line

The words of a command line lead through groups of commands to a single command, a `Leaf`, which
takes positional arguments and options.  A `Usage` says why a line is refused, or that it asks for
help or the version, which ends the reading in the same way.

Which of several mistakes is reported depends on when a value is looked at.  A value that has been
read waits until the next argument of the leaf is recognised, or the line ends, and only then is it
`settle`d: checked and taken.  An argument that is not recognised ends the reading at once, so the
value that waits is not looked at any more.
-/

set_option autoImplicit false

namespace Gatehouse

/-- Why no command is read from a command line. -/
inductive Usage where
  /-- A group of commands is named, but no command in it. -/
  | helpOnMissing
  /-- The group has no such command. -/
  | invalidSubcommand
  /-- An argument that the command does not take. -/
  | unknownArgument
  /-- An argument that the command needs is missing. -/
  | missingArgument
  /-- The value of an argument cannot be read. -/
  | badValue
  /-- An option is given twice. -/
  | conflict
  /-- An option lacks its value. -/
  | emptyValue
  /-- A switch is given a value. -/
  | surplusValue
  /-- Help is asked for. -/
  | help
  /-- The version is asked for. -/
  | version
deriving DecidableEq, Repr

/-- The message for a mistake. -/
def Usage.message : Usage → String
  | .helpOnMissing => "a command is missing"
  | .invalidSubcommand => "there is no such command"
  | .unknownArgument => "an argument is not known"
  | .missingArgument => "an argument is missing"
  | .badValue => "the value of an argument cannot be read"
  | .conflict => "an option is given twice"
  | .emptyValue => "the value of an option is missing"
  | .surplusValue => "an option takes no value"
  | .help => "help is asked for"
  | .version => "the version is asked for"

/-! ## The form of a command -/

/-- An option of a command. -/
structure Switch where
  /-- Its name, without dashes. -/
  name : String
  /-- How its values are checked; `none` if it takes none. -/
  value : Option (String → Bool) := none
  /-- It may be given several times and with several values, commas between them. -/
  many : Bool := false

/-- A positional argument of a command. -/
structure Slot where
  /-- How the value is checked. -/
  accepts : String → Bool := fun _ => true
  /-- The argument must be given. -/
  required : Bool := true

/-- The form of a command. -/
structure Leaf where
  /-- The positional arguments, in order. -/
  slots : List Slot := []
  /-- The options. -/
  switches : List Switch := []

/-! ## Arguments -/

/-- A value that has been read and waits to be looked at. -/
inductive Waiting where
  /-- Nothing waits. -/
  | nothing
  /-- A positional argument. -/
  | slot (value : String)
  /-- An option, and its value if that has come. -/
  | switch (s : Switch) (value : Option String)

/-- The arguments of a command as far as they have been read. -/
structure Arguments where
  /-- The positional arguments taken. -/
  slots : List String := []
  /-- The options taken, each with its values. -/
  switches : List (String × List String) := []
  /-- What waits to be looked at. -/
  waiting : Waiting := .nothing
  /-- Two dashes have been met, so that nothing after them is an option. -/
  escaped : Bool := false

namespace Arguments

/-- The option has been taken. -/
def has (a : Arguments) (name : String) : Bool := a.switches.any (·.1 == name)

/-- The values of an option, if it has been taken. -/
def values? (a : Arguments) (name : String) : Option (List String) :=
  if a.has name then some ((a.switches.filter (·.1 == name)).flatMap (·.2)) else none

/-- The value of an option, if it has been taken. -/
def value? (a : Arguments) (name : String) : Option String :=
  (a.values? name).bind (·.head?)

/-- Takes an option with its value. -/
def takeSwitch (a : Arguments) (s : Switch) (value : Option String) : Except Usage Arguments :=
  match s.value, value with
  | none, _ =>
    if a.has s.name then .error .conflict
    else .ok { a with switches := a.switches ++ [(s.name, [])] }
  | some _, none => .error .emptyValue
  | some accepts, some value =>
    let values := if s.many then value.splitOn "," else [value]
    if !s.many && a.has s.name then .error .conflict
    else if values.all accepts then
      .ok { a with switches := a.switches ++ [(s.name, values)] }
    else .error .badValue

/-- Looks at what waits and takes it. -/
def settle (l : Leaf) (a : Arguments) : Except Usage Arguments :=
  let calm := { a with waiting := .nothing }
  match a.waiting with
  | .nothing => .ok a
  | .slot value =>
    match l.slots[a.slots.length]? with
    | none => .error .unknownArgument
    | some slot =>
      if slot.accepts value then .ok { calm with slots := a.slots ++ [value] }
      else .error .badValue
  | .switch s value => calm.takeSwitch s value

/-- The number of positional arguments read. -/
def slotCount (a : Arguments) : Nat :=
  match a.waiting with
  | .slot _ => a.slots.length + 1
  | _ => a.slots.length

/-- Reads a positional argument. -/
def readSlot (l : Leaf) (a : Arguments) (value : String) : Except Usage Arguments :=
  if a.slotCount < l.slots.length then do
    let a ← a.settle l
    return { a with waiting := .slot value }
  else .error .unknownArgument

/-- Reads an option, with the value that is attached to it. -/
def readSwitch (l : Leaf) (a : Arguments) (s : Switch) (attached : Option String) :
    Except Usage Arguments :=
  match s.value, attached with
  | none, some _ => .error .surplusValue
  | some _, none => do
    let a ← a.settle l
    return { a with waiting := .switch s none }
  | _, attached => do
    let a ← a.settle l
    a.takeSwitch s attached

end Arguments

/-! ## Words -/

/-- What a word of a command line looks like. -/
inductive Word where
  /-- Two dashes. -/
  | dashes
  /-- A long option, with the value attached to it. -/
  | long (name : String) (attached : Option String)
  /-- Short options; the first of them decides. -/
  | short (first : Char)
  /-- Any other word; a single dash is one. -/
  | plain (text : String)
deriving DecidableEq, Repr

/-- The characters before and after the first equals sign. -/
def splitAtEquals (cs : List Char) : List Char × Option (List Char) :=
  match cs.span (· ≠ '=') with
  | (name, []) => (name, none)
  | (name, _ :: value) => (name, some value)

/-- What a word looks like. -/
def Word.of (s : String) : Word :=
  match s.toList with
  | ['-', '-'] => .dashes
  | '-' :: '-' :: cs =>
    let (name, value) := splitAtEquals cs
    .long (String.ofList name) (value.map String.ofList)
  | '-' :: c :: _ => .short c
  | _ => .plain s

namespace Arguments

/-- Reads a request for help: what waits is looked at before. -/
def readHelp (l : Leaf) (a : Arguments) : Except Usage Arguments := do
  let _ ← a.settle l
  throw .help

/-- Reads a plain word: the value that an option waits for, or a positional argument. -/
def readPlain (l : Leaf) (a : Arguments) (text : String) : Except Usage Arguments :=
  match a.waiting with
  | .switch s none => .ok { a with waiting := .switch s (some text) }
  | _ => a.readSlot l text

/-- Reads a word. -/
def readWord (l : Leaf) (a : Arguments) (text : String) : Except Usage Arguments :=
  if a.escaped then a.readSlot l text
  else
    match Word.of text with
    | .dashes => .ok { a with escaped := true }
    | .long "help" none => a.readHelp l
    | .long "help" (some _) => .error .surplusValue
    | .long name attached =>
      match l.switches.find? (·.name == name) with
      | some s => a.readSwitch l s attached
      | none => .error .unknownArgument
    | .short 'h' => a.readHelp l
    | .short _ => .error .unknownArgument
    | .plain text => a.readPlain l text

end Arguments

/-- Reads the arguments of a command. -/
def Leaf.read (l : Leaf) (words : List String) : Except Usage Arguments := do
  let a ← words.foldlM (Arguments.readWord l) {}
  let a ← a.settle l
  if a.slots.length < (l.slots.filter (·.required)).length then throw .missingArgument
  return a

/-! ## Groups of commands -/

/-- An entry of a menu: a command with the way to make it from its arguments, or a group. -/
inductive Entry (α : Type) where
  /-- A command. -/
  | leaf (name : String) (form : Leaf) (build : Arguments → Option α)
  /-- A group of commands. -/
  | group (name : String) (entries : List (Entry α))

namespace Entry

variable {α : Type}

/-- The name of an entry. -/
def name : Entry α → String
  | .leaf name _ _ => name
  | .group name _ => name

/-- The entries inside an entry. -/
def entries : Entry α → List (Entry α)
  | .leaf _ _ _ => []
  | .group _ entries => entries

/-- The entry with a name. -/
def find? (menu : List (Entry α)) (name : String) : Option (Entry α) :=
  List.find? (fun e => e.name == name) menu

/-- A group of commands answers to the name, too: as one of its entries, or as the request for
help. -/
def knows (menu : List (Entry α)) (name : String) : Bool :=
  (find? menu name).isSome || (name == "help" && !menu.isEmpty)

/-- Follows the words after a request for help. -/
def helpOn (menu : List (Entry α)) : List String → Usage
  | [] => .help
  | word :: rest =>
    match find? menu word with
    | some e => helpOn e.entries rest
    | none => if word == "help" && !menu.isEmpty then helpOn ([] : List (Entry α)) rest
      else .invalidSubcommand

/-- Reads a command from the words that follow a group.  Only the outermost group, `top`, knows the
version. -/
def read (top : Bool) (menu : List (Entry α)) : List String → Except Usage α
  | [] => .error .helpOnMissing
  | text :: rest =>
    match find? menu text with
    | some (.leaf _ form build) => do
      let arguments ← form.read rest
      match build arguments with
      | some command => return command
      | none => throw .badValue
    | some (.group _ entries) => read false entries rest
    | none =>
      if text = "help" then .error (helpOn menu rest)
      else
        match Word.of text with
        | .dashes =>
          match rest with
          | [] => .error .helpOnMissing
          | next :: _ => .error (if knows menu next then .unknownArgument else .invalidSubcommand)
        | .long "help" none => .error .help
        | .long "help" (some _) => .error .surplusValue
        | .long name attached =>
          if top && name == "version" then
            .error (if attached.isSome then .surplusValue else .version)
          else .error .unknownArgument
        | .short c =>
          if c = 'h' then .error .help
          else if top && c = 'V' then .error .version
          else .error .unknownArgument
        | .plain _ => .error .invalidSubcommand

mutual

/-- The commands in an entry, each with the words that lead to it. -/
def paths : Entry α → List String
  | .leaf name _ _ => [name]
  | .group name entries => (pathsOf entries).map fun path => name ++ " " ++ path

/-- The commands of a menu. -/
def pathsOf : List (Entry α) → List String
  | [] => []
  | e :: rest => e.paths ++ pathsOf rest

end

end Entry

end Gatehouse
