import Gatehouse.Record.ReadError
import Gatehouse.Scenario.Problem
import Gatehouse.Setting.Fault

/-!
# Errors

An `Error` is a cause: what was looked for and is not there (`Absent`), what about a request is
not valid (`Invalid`), why a record cannot be read (`ReadError`), what is wrong with the settings
(`Setting.Fault`), or a failure of what the program stands on.  The wording of every message is in
this module, in two tellings: `Error.message` for the log, `Error.userMessage` for the user, who is
not told what went on inside the database, the settings or the file system.

Each error also has a `code`, and the command line ends with an `exitCode` made from it.
-/

set_option autoImplicit false

namespace Gatehouse

/-- What was looked for and is not there. -/
inductive Absent where
  /-- A role, by its identity. -/
  | role (id : RoleId)
  /-- A role, by its name. -/
  | roleNamed (name : String)
  /-- A role of a scenario. -/
  | roleOfScenario (role scenario : String)
  /-- A role that a scenario would have created. -/
  | roleNotApplied (role scenario : String)
  /-- A grant. -/
  | grant (id : GrantId)
  /-- A scenario. -/
  | scenario (name : String)
  /-- Something else, in words. -/
  | described (what : String)
deriving DecidableEq, Repr

/-- How a message calls what is not there. -/
def Absent.words : Absent → String
  | .role id => "role " ++ id.text
  | .roleNamed name => "role " ++ name
  | .roleOfScenario name template => "role " ++ name ++ " in template " ++ template
  | .roleNotApplied name template =>
    "role " ++ name ++ " (apply template " ++ template ++ " first)"
  | .grant id => "grant " ++ id.text
  | .scenario name => "template " ++ name
  | .described what => what

/-- What about a request is not valid. -/
inductive Invalid where
  /-- Both a role and a user are named as the owner of a grant. -/
  | twoOwners (role : RoleId) (user : UserId)
  /-- No owner of a grant is named. -/
  | noOwner
  /-- The section of a grant is blank. -/
  | blankArea
  /-- The action of a grant is blank. -/
  | blankAction
  /-- A grant is narrowed to an instance but to no item. -/
  | instanceWithoutItem (id : Int32)
  /-- The name of a role is blank. -/
  | blankRoleName
  /-- Another role has this name. -/
  | roleNameTaken (name : String)
  /-- The word for a rule is unknown. -/
  | unknownRule (word : String)
  /-- The word for an export format is unknown. -/
  | unknownFormat (word : String)
  /-- A scenario has problems. -/
  | scenario (name : String) (problems : List Problem)
  /-- Something else, in words. -/
  | described (text : String)
deriving DecidableEq, Repr

/-- The message for what is not valid. -/
def Invalid.message : Invalid → String
  | .twoOwners role user =>
    "Grant owner is ambiguous: both role " ++ role.text ++ " and user " ++ user.text ++ " set"
  | .noOwner => "Grant owner is missing: neither role nor user set"
  | .blankArea => "Grant section must not be empty"
  | .blankAction => "Grant action must not be empty"
  | .instanceWithoutItem id => "Grant item_id " ++ showInt32 id ++ " requires an item"
  | .blankRoleName => "Role name must not be empty"
  | .roleNameTaken name => "Role " ++ name ++ " already exists"
  | .unknownRule word => "Unknown rule type: " ++ word
  | .unknownFormat word => "Unknown export format: " ++ word
  | .scenario name problems => "Scenario " ++ name ++ ": " ++ reportText problems
  | .described text => text

/-- Why something could not be done. -/
inductive Error where
  /-- The database failed. -/
  | database (text : String)
  /-- The settings are not usable. -/
  | config (fault : Setting.Fault)
  /-- The permission is lacking. -/
  | forbidden
  /-- Something is not there. -/
  | notFound (what : Absent)
  /-- The request is not valid. -/
  | validation (reason : Invalid)
  /-- A record could not be read or written. -/
  | serialization (reason : ReadError)
  /-- A file could not be read or written. -/
  | io (text : String)
  /-- The program failed. -/
  | internal (text : String)
deriving DecidableEq, Repr

namespace Error

/-- The message for the log. -/
def message : Error → String
  | .database text => "Database error: " ++ text
  | .config fault => "Configuration error: " ++ fault.message
  | .forbidden => "Access denied"
  | .notFound what => "Resource not found: " ++ what.words
  | .validation reason => "Validation error: " ++ reason.message
  | .serialization reason => "Serialization error: " ++ reason.message
  | .io text => "I/O error: " ++ text
  | .internal text => "Internal error: " ++ text

/-- The message for the user, which tells nothing about the inside of the database, the settings
and the file system. -/
def userMessage : Error → String
  | .database _ => "Database error occurred"
  | .config _ => "Configuration error"
  | .forbidden => "Access denied"
  | .notFound what => "Resource not found: " ++ what.words
  | .validation reason => reason.message
  | .serialization reason => "Could not encode output: " ++ reason.message
  | .io _ => "I/O error occurred"
  | .internal text => "Internal error: " ++ text

/-- The code of an error. -/
def code : Error → Nat
  | .validation _ => 400
  | .forbidden => 403
  | .notFound _ => 404
  | .serialization _ => 422
  | .database _ => 500
  | .config _ => 500
  | .io _ => 500
  | .internal _ => 500

/-- The exit code of the command line after an error with this code. -/
def exitCodeOf (code : Nat) : Nat :=
  if code = 400 ∨ code = 422 then 2 else if code = 404 then 3 else if code = 403 then 4 else 1

/-- The exit code of the command line after an error. -/
def exitCode (e : Error) : Nat := exitCodeOf e.code

/-- A failure in the database helper, which counts as a failure of the program. -/
def ofDatabaseFailure (text : String) : Error := .internal ("Database error: " ++ text)

end Error

end Gatehouse
