import Gatehouse.Invocation

/-!
# The program

Collects the arguments, the environment and the files of a run, and ends as `Invocation.run` says.
Files are read in two rounds, because the files of variables may name a file of scenarios.
-/

set_option autoImplicit false

namespace Gatehouse

/-- The text of a file, if there is such a file. -/
def readText (path : String) : IO (Option String) := do
  try
    return some (← IO.FS.readFile path)
  catch _ =>
    return none

/-- The text of a file in this directory, or in the next one above it that has such a file. -/
def readUpward (path : String) : Nat → IO (Option String)
  | 0 => readText path
  | height + 1 => do
    match ← readText path with
    | some text => return some text
    | none => readUpward ("../" ++ path) height

/-- The number of directories above this one. -/
def heightOfDirectory : IO Nat := do
  return (((← IO.currentDir).toString.splitOn "/").filter (· ≠ "")).length

/-- The files among the given paths, as far as `read` finds them. -/
def collect (read : String → IO (Option String)) (paths : List String) :
    IO (List (String × String)) := do
  let found ← paths.mapM fun path => do return (← read path).map fun text => (path, text)
  return found.filterMap id

/-- A variable as the operating system lists it. -/
def variableOf (text : String) : Option (String × String) :=
  match text.splitOn "=" with
  | name :: value => if name.isEmpty then none else some (name, "=".intercalate value)
  | [] => none

/-- The environment of this process. -/
def environment : IO Environment := do
  let text ← readText "/proc/self/environ"
  return ((text.getD "").splitOn "\x00").filterMap variableOf

/-- Files by their paths. -/
def filesOf (texts : List (String × String)) : Files := fun path => texts.lookup path

/-- Runs the program here and gives its exit code. -/
def runHere (arguments : List String) : IO UInt32 := do
  let environment ← environment
  let height ← heightOfDirectory
  let first ← collect (readUpward · height) environment.fileNames
  let second ← collect readText
    (Invocation.mk arguments environment (filesOf first)).templateFiles
  let ending := (Invocation.mk arguments environment (filesOf (first ++ second))).run
  (← IO.getStdout).putStr ending.stdout
  (← IO.getStderr).putStr ending.stderr
  return ending.exit.toUInt32

end Gatehouse

/-- Runs the program. -/
def main (arguments : List String) : IO UInt32 := Gatehouse.runHere arguments
