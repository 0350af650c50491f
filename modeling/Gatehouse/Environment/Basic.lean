import Gatehouse.Setting.Path
import Gatehouse.Text.Lowercase

/-!
# The environment

The environment is a list of variables.  Those whose name begins with `authz_`, in letters of either
case, are settings: the rest of the name is a path, with two underscores between its parts, and a
value that looks like a truth value or a number is one.
-/

set_option autoImplicit false

namespace Gatehouse

/-- The variables of a process, names and values.  A name does not occur twice. -/
abbrev Environment := List (String × String)

namespace Environment

/-- What the names of all settings begin with. -/
def namespacePrefix : List Char := "authz_".toList

/-- Puts dots in place of pairs of underscores. -/
def dotted : List Char → List Char
  | '_' :: '_' :: cs => '.' :: dotted cs
  | c :: cs => c :: dotted cs
  | [] => []

/-- The key of the setting that a variable stands for. -/
def keyOf? (name : String) : Option String :=
  let name := (lowercase name).toList
  if namespacePrefix.isPrefixOf name then
    some (String.ofList (dotted (name.drop namespacePrefix.length)))
  else none

/-- The value that a text looks like. -/
def guess (text : String) : Scalar :=
  let word := lowercase text
  if word = "true" then .truth true
  else if word = "false" then .truth false
  else match boundedInteger? int64Low int64High text.toList with
    | some n => .integer n
    | none => ((real? text).map Scalar.number).getD (.text text)

/-- Where settings from the environment come from. -/
def origin : String := "the environment"

/-- The setting that a variable stands for, with its key. -/
def setting? (v : String × String) : Option (String × Setting) :=
  (keyOf? v.1).map fun key => (key, .scalar (some origin) (guess v.2))

/-- The settings in the environment, with their keys. -/
def settings (e : Environment) : List (String × Setting) := e.filterMap setting?

/-- Sets a variable, unless it has a value already. -/
def define (e : Environment) (name value : String) : Environment :=
  match e.lookup name with
  | some _ => e
  | none => e ++ [(name, value)]

end Environment

end Gatehouse
