import Gatehouse.Command.Run
import Gatehouse.Environment.Reader
import Gatehouse.Scenario.File
import Gatehouse.Settings

/-!
# A whole run

A run of the program has its arguments, the environment and the files; `Invocation.run` says how it
ends and what it prints.  The list of known permissions is printed whatever the settings are.  For
everything else files of variables are read, then the settings, then the library of scenarios; a
command that works on stored roles and grants finally wants its database.

The database itself is outside: `Invocation.connectionFault` says why there is none.
-/

set_option autoImplicit false

namespace Gatehouse

/-- How a run ends. -/
structure Ending where
  /-- The exit code. -/
  exit : Nat
  /-- What is printed. -/
  stdout : String := ""
  /-- What is printed for errors. -/
  stderr : String := ""
deriving DecidableEq, Repr

/-- What a run starts from. -/
structure Invocation where
  /-- The arguments. -/
  arguments : List String
  /-- The environment. -/
  environment : Environment
  /-- The files. -/
  files : Files

namespace Invocation

/-- What the program answers to a request for its version. -/
def versionText : String := "site-authz 0.1.0\n"

/-- The end of a run without a command. -/
def ofUsage : Usage → Ending
  | .help => { exit := 0, stdout := Command.overview }
  | .version => { exit := 0, stdout := versionText }
  | mistake => { exit := 2, stderr := "error: " ++ mistake.message ++ "\n" }

/-- The end of a run whose command has an answer. -/
def ofReply : Except Error Reply → Ending
  | .ok reply => { exit := reply.exitCode, stdout := reply.text }
  | .error e => { exit := e.exitCode, stderr := "error: " ++ e.userMessage ++ "\n" }

/-- The end of a run that did not come to its command. -/
def abandoned (reason : String) : Ending := { exit := 1, stderr := "Error: " ++ reason ++ "\n" }

/-- The end of a run whose settings are not usable. -/
def ofFault (fault : Setting.Fault) : Ending :=
  { exit := 1,
    stderr := "Configuration error: " ++ fault.message ++
      "\nError: Failed to load configuration: " ++ fault.message ++ "\n" }

/-! ## The database -/

/-- A text begins like an absolute URL: a letter, further letters, digits or signs, a colon. -/
def hasScheme (url : String) : Bool :=
  match (url.toList.dropWhile fun c => c.toNat ≤ 32) with
  | c :: rest =>
    c.isAlpha && (rest.dropWhile fun c => c.isAlphanum || c == '+' || c == '-' || c == '.').head?
      == some ':'
  | [] => false

/-- Why there is no database. -/
def connectionFault (d : DatabaseSettings) : String :=
  match d.url with
  | none => "AUTHZ_DATABASE__URL is not set"
  | some url =>
    "Cannot connect to authz database: " ++
      if hasScheme url then "pool timed out while waiting for an open connection"
      else "error with configuration: relative URL without a base"

/-! ## The run -/

/-- Does what a command says, once the settings are known. -/
def runWith (files : Files) (s : Settings) (c : Command) : Ending :=
  match Library.load files s.templates with
  | .error e => abandoned e.message
  | .ok library =>
    match c.withoutStore library with
    | some reply => ofReply reply
    | none => abandoned (connectionFault s.database)

/-- The environment of a run, with the variables of its files. -/
def wholeEnvironment (i : Invocation) : Environment := i.environment.withFiles i.files

/-- The end of a run. -/
def run (i : Invocation) : Ending :=
  match Command.read i.arguments with
  | .error usage => ofUsage usage
  | .ok (.listPermissions json) => ofReply (.ok (permissionsReply json))
  | .ok c =>
    match Settings.load i.wholeEnvironment fun path => (i.files path).isSome with
    | .error fault => ofFault fault
    | .ok s => runWith i.files s c

/-- The files that a run may read once the files of variables are known. -/
def templateFiles (i : Invocation) : List String :=
  match Settings.ofEnvironment i.wholeEnvironment with
  | .ok s => s.templates.toList
  | .error _ => []

end Invocation

end Gatehouse
