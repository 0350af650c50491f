import Gatehouse.Json.Reader
import Gatehouse.Setting.Path
import Gatehouse.Toml.Document
import Gatehouse.Yaml.Document

/-!
# Settings files

A settings file is written in one of three formats, and its extension says which.  `Setting.locate`
finds the file for a path, `Setting.ofFile` reads its text.  Whatever the format, the outermost
value is a table whose keys are paths into the settings.
-/

set_option autoImplicit false

namespace Gatehouse

/-- The text files there are, by path. -/
abbrev Files := String → Option String

namespace Setting

namespace Format

/-- The extensions of files and the formats they stand for, in the order in which they are tried. -/
def extensions : List (String × Format) :=
  [("toml", .toml), ("json", .json), ("yaml", .yaml), ("yml", .yaml)]

/-- The value that a text in a format stands for. -/
def read : Format → String → Option Json
  | .json => Json.read
  | .toml => Toml.read
  | .yaml => Yaml.read

end Format

/-! ## Paths -/

/-- The last part of a path. -/
def fileName (path : String) : List Char :=
  (path.toList.reverse.takeWhile (· ≠ '/')).reverse

/-- What follows the last dot of the name of a file.  A dot at the beginning does not count. -/
def extension? (path : String) : Option String :=
  let (extension, before) := (fileName path).reverse.span (· ≠ '.')
  match before with
  | '.' :: _ :: _ => some (String.ofList extension.reverse)
  | _ => none

/-- The format that the extension of a path stands for. -/
def formatOf? (path : String) : Option Format :=
  (extension? path).bind fun extension => Format.extensions.lookup extension

/-- A path as messages show it: a relative one without the parts that mean nothing. -/
def shownPath (path : String) : String :=
  if path.startsWith "/" then path
  else "/".intercalate ((path.splitOn "/").filter fun part => part ≠ "" && part ≠ ".")

/-- The paths that are tried for a file that does not exist under its own path. -/
def candidates (path : String) : List (String × Format) :=
  Format.extensions.map fun (extension, format) => (path ++ "." ++ extension, format)

/-! ## Reading -/

/-- Finds a settings file: its path, its format and its text.  If there is none at the path itself,
each known extension is tried after it. -/
def locate (files : Files) (path : String) : Except Fault (String × Format × String) :=
  match files path with
  | some text =>
    match formatOf? path with
    | some format => .ok (path, format, text)
    | none => .error (.unknownFormat path)
  | none =>
    match (candidates path).findSome? fun (path, format) =>
        (files path).map fun text => (path, format, text) with
    | some found => .ok found
    | none => .error (.noFile path)

/-- The text without the mark for the order of bytes at its start. -/
def withoutMark (text : String) : String :=
  match text.toList with
  | c :: rest => if c.toNat = 0xfeff then String.ofList rest else text
  | [] => text

/-- The settings in the text of a file. -/
def ofText (path : String) (format : Format) (text : String) : Except Fault Setting :=
  let shown := shownPath path
  match format.read (withoutMark text) with
  | none => .error (.malformed shown format)
  | some value =>
    match ofJson (some shown) value with
    | .table _ members => .ok (empty.putAll members)
    | s => .error (.wrongKind s.found .table none [shown, shown])

/-- The settings in a file. -/
def ofFile (files : Files) (path : String) : Except Fault Setting := do
  let (path, format, text) ← locate files path
  ofText path format text

end Setting

end Gatehouse
