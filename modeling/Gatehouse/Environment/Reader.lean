import Gatehouse.Environment.Basic
import Gatehouse.Text.Alphanumeric
import Gatehouse.Text.Blank

/-!
# Files of variables

A file may add variables to the environment, each on a line of its own: a name, an equals sign and a
value, and the word `export` before them or not.  The value may have quotes in it; outside of strong
quotes a dollar sign and a name stand for the value of a variable, from the environment if it is
there, else from the lines before.

A variable that the environment has already keeps its value.  The first line that cannot be read
ends the reading; what stands before it counts.
-/

set_option autoImplicit false

namespace Gatehouse

namespace Environment

/-! ## Values -/

/-- Whether the name of a variable is being read. -/
inductive Naming where
  /-- No. -/
  | none
  /-- After a dollar sign. -/
  | bare
  /-- After a dollar sign and an opening brace. -/
  | braced
deriving DecidableEq

/-- The state of reading a value. -/
structure ValueReader where
  /-- The value so far. -/
  value : List Char := []
  /-- Between apostrophes. -/
  strong : Bool := false
  /-- Between quotes. -/
  weak : Bool := false
  /-- After a backslash. -/
  escaped : Bool := false
  /-- After the blank at the end of the value: only a comment may come. -/
  ended : Bool := false
  /-- Whether a name is being read. -/
  naming : Naming := .none
  /-- The name so far. -/
  name : List Char := []

namespace ValueReader

/-- Puts the value of the variable that has been named at the end of the value. -/
def substitute (known : String → String) (r : ValueReader) : ValueReader :=
  { r with
    value := r.value ++ (known (String.ofList r.name)).toList
    name := []
    naming := .none }

/-- Adds a character to the value. -/
def push (c : Char) (r : ValueReader) : ValueReader := { r with value := r.value ++ [c] }

/-- Takes a character while a name is being read. -/
def stepName (known : String → String) (r : ValueReader) (c : Char) : ValueReader :=
  if isAlphanumeric c then { r with name := r.name ++ [c] }
  else match r.naming with
    | .braced =>
      if c = '\x7d' then r.substitute known else { r with name := r.name ++ [c] }
    | _ =>
      if c = '\x7b' ∧ r.name = [] then { r with naming := .braced }
      else if c = '$' then { r.substitute known with naming := .bare }
      else (r.substitute known).push c

/-- Takes a character. -/
def step (known : String → String) (r : ValueReader) (c : Char) : Option ValueReader :=
  if r.ended then if c = ' ' ∨ c = '\t' then some r else none
  else if r.escaped then
    let r := { r with escaped := false }
    if c = 'n' then some (r.push '\n')
    else if c = '\\' ∨ c = '\'' ∨ c = '"' ∨ c = '$' ∨ c = ' ' then some (r.push c)
    else none
  else if r.strong then some (if c = '\'' then { r with strong := false } else r.push c)
  else if r.naming ≠ .none then some (r.stepName known c)
  else if c = '$' then some { r with naming := .bare }
  else if c = '\\' then some { r with escaped := true }
  else if c = '"' then some { r with weak := !r.weak }
  else if r.weak then some (r.push c)
  else if c = '\'' then some { r with strong := true }
  else if c = ' ' ∨ c = '\t' then some { r with ended := true }
  else some (r.push c)

/-- Takes the characters of a line, up to a comment. -/
def run (known : String → String) : ValueReader → List Char → Option ValueReader
  | r, [] => some r
  | r, c :: cs =>
    if r.ended ∧ c = '#' then some r else (r.step known c).bind fun r => run known r cs

/-- The value, if no quote is open. -/
def finish (known : String → String) (r : ValueReader) : Option String :=
  if r.naming = .braced ∨ r.strong ∨ r.weak then none
  else some (String.ofList (r.substitute known).value)

end ValueReader

/-- Reads a value; `known` tells the values of variables. -/
def readValue (known : String → String) (cs : List Char) : Option String :=
  (ValueReader.run known {} cs).bind (·.finish known)

/-! ## Lines -/

/-- A letter of the alphabet. -/
def isLetter (c : Char) : Bool := ('a' ≤ c && c ≤ 'z') || ('A' ≤ c && c ≤ 'Z')

/-- Reads the name of a variable. -/
def readName (cs : List Char) : Option (String × List Char) :=
  match cs with
  | c :: _ =>
    if isLetter c || c == '_' then
      let (name, rest) := cs.span fun c => isLetter c || isDigit c || c == '_' || c == '.'
      some (String.ofList name, dropBlanks rest)
    else none
  | [] => none

/-- Reads the equals sign. -/
def readEquals : List Char → Option (List Char)
  | '=' :: cs => some cs
  | _ => none

/-- Reads a name and the equals sign after it. -/
def readTarget (cs : List Char) : Option (String × List Char) := do
  let (name, rest) ← readName cs
  match name, readEquals rest with
  | _, some rest => some (name, rest)
  | "export", none => do
    let (name, rest) ← readName rest
    let rest ← readEquals rest
    some (name, rest)
  | _, none => none

/-- Nothing but a comment is left. -/
def isOver : List Char → Bool
  | [] => true
  | c :: _ => c == '#'

/-- What a line says. -/
inductive Line where
  /-- Nothing. -/
  | empty
  /-- A variable has a value. -/
  | assign (name value : String)

/-- Reads a line. -/
def readLine (known : String → String) (line : List Char) : Option Line :=
  let cs := trimBlanks line
  if isOver cs then some .empty
  else do
    let (name, rest) ← readTarget cs
    let rest := dropBlanks rest
    if isOver rest then some (.assign name "")
    else do
      let value ← readValue known rest
      some (.assign name value)

/-! ## Files -/

/-- The value of a variable in the environment, or else in the lines before. -/
def known (e : Environment) (before : List (String × String)) (name : String) : String :=
  (e.lookup name).getD ((before.lookup name).getD "")

/-- Reads lines into the environment, up to the first that cannot be read.  `before` holds the
variables of the lines before, the latest first. -/
def readLines (e : Environment) (before : List (String × String)) :
    List (List Char) → Environment
  | [] => e
  | line :: rest =>
    match readLine (known e before) line with
    | some (.assign name value) => readLines (e.define name value) ((name, value) :: before) rest
    | some .empty => readLines e before rest
    | none => e

/-- The lines of a text. -/
def linesOf (text : String) : List (List Char) := (text.splitOn "\n").map String.toList

/-- Adds the variables of a file. -/
def readText (e : Environment) (text : String) : Environment := readLines e [] (linesOf text)

/-- The variable that says which file is read. -/
def selector : String := "AUTHZ_ENV"

/-- The files of variables that are read. -/
def fileNames (e : Environment) : List String :=
  match e.lookup selector with
  | some name => [".env." ++ name]
  | none => [".env.local", ".env"]

/-- The environment with the variables of its files. -/
def withFiles (e : Environment) (files : String → Option String) : Environment :=
  e.fileNames.foldl (fun e name => ((files name).map e.readText).getD e) e

end Environment

end Gatehouse
