import Gatehouse.Decimal.Shortest
import Gatehouse.Text.Quoted
import Gatehouse.Text.Truth

/-!
# What is wrong with settings

Settings come from files and from the environment as trees of loosely typed values, and are read
into records field by field.  A `Fault` says why that failed.  The faults met while a tree is read
carry the path to the offending value, which is put together from the inside out by `Fault.inField`
and `Fault.atIndex`: a field name is followed by a dot unless an index or nothing comes after it.
-/

set_option autoImplicit false

namespace Gatehouse

namespace Setting

/-- What a value turned out to be.  The readers of single values tell the width of an integer, the
readers of records and lists do not. -/
inductive Found where
  /-- Nothing. -/
  | nothing
  /-- A truth value. -/
  | truth (value : Bool)
  /-- An integer of 64 bits with a sign. -/
  | signed (value : Int)
  /-- An integer of 64 bits without a sign. -/
  | unsigned (value : Int)
  /-- An integer of any width. -/
  | integer (value : Int)
  /-- A number, shown without `.0`. -/
  | number (value : Binary64)
  /-- A number, shown with `.0` if it is whole. -/
  | pointed (value : Binary64)
  /-- A text. -/
  | text (value : String)
  /-- A list. -/
  | list
  /-- A table. -/
  | table
deriving DecidableEq, Repr

/-- How a message calls what was found. -/
def Found.words : Found → String
  | .nothing => "unit value"
  | .truth value => "boolean `" ++ truthText value ++ "`"
  | .signed value => "64-bit integer `" ++ showInt value ++ "`"
  | .unsigned value => "64-bit unsigned integer `" ++ showInt value ++ "`"
  | .integer value => "integer `" ++ showInt value ++ "`"
  | .number value => "floating point `" ++ String.ofList (value.text .plain) ++ "`"
  | .pointed value => "floating point `" ++ String.ofList (value.text .pointed) ++ "`"
  | .text value => "string " ++ quoted value
  | .list => "sequence"
  | .table => "map"

/-- What was wanted of a value. -/
inductive Wanted where
  | truth
  | integer
  | int32
  | int64
  | uint32
  | uint64
  | text
  | list
  | table
  /-- A record of a kind. -/
  | record (name : String)
deriving DecidableEq, Repr

/-- How a message calls what was wanted. -/
def Wanted.words : Wanted → String
  | .truth => "a boolean"
  | .integer => "an integer"
  | .int32 => "an signed 32 bit integer"
  | .int64 => "an signed 64 bit or less integer"
  | .uint32 => "an unsigned 32 bit integer"
  | .uint64 => "an unsigned 64 bit or less integer"
  | .text => "a string"
  | .list => "a sequence"
  | .table => "a map"
  | .record name => "struct " ++ name

/-- The formats of settings files. -/
inductive Format where
  | json
  | toml
  | yaml
deriving DecidableEq, Repr

/-- The name of a format. -/
def Format.name : Format → String
  | .json => "JSON"
  | .toml => "TOML"
  | .yaml => "YAML"

/-- Why settings cannot be used. -/
inductive Fault where
  /-- A field that must be there is missing. -/
  | missing (path : String)
  /-- A value is of the wrong kind.  The path is `none` at the root; `origins` says where the value
  came from. -/
  | wrongKind (found : Found) (wanted : Wanted) (path : Option String) (origins : List String)
  /-- A list is too short for the record it stands for. -/
  | tooShort (length : Nat) (record : String) (fields : Nat) (path : Option String)
  /-- There is no such file. -/
  | noFile (path : String)
  /-- The extension of the file is not that of a known format. -/
  | unknownFormat (path : String)
  /-- The text of the file is not of its format. -/
  | malformed (path : String) (format : Format)
  /-- The bounds of the connection pool contradict each other. -/
  | poolBounds (least greatest : Nat)
  /-- The value of a field is none of the words that it allows. -/
  | notOneOf (field value : String) (allowed : List String)
  /-- The file of templates does not exist. -/
  | noTemplates (path : String)
  /-- Any other reason, in words. -/
  | described (text : String)
deriving DecidableEq, Repr

namespace Fault

/-- Puts a segment before a path; a dot separates the two where `dotted` says so and the path is
neither missing nor begins with an index. -/
def extended (segment : String) (dotted : Bool) (path : Option String) : String :=
  let rest := path.getD ""
  let dot := match rest.toList with
    | [] => ""
    | c :: _ => if dotted && c != '[' then "." else ""
  segment ++ dot ++ rest

/-- The fault as seen from outside, with a segment put before its path. -/
def within (segment : String) (dotted : Bool) : Fault → Fault
  | .missing path => .missing (extended segment dotted (some path))
  | .wrongKind found wanted path origins =>
    .wrongKind found wanted (some (extended segment dotted path)) origins
  | .tooShort length record fields path =>
    .tooShort length record fields (some (extended segment dotted path))
  | fault => fault

/-- The fault of a field, as a fault of the table that holds it. -/
def inField (name : String) : Fault → Fault := within name true

/-- The fault of an item, as a fault of the list that holds it. -/
def atIndex (i : Nat) : Fault → Fault := within ("[" ++ showNat i ++ "]") false

/-- Where a value came from, at the end of a message. -/
def originText (origins : List String) : String := String.join (origins.map (" in " ++ ·))

/-- A path at the end of a message. -/
def pathText (path : Option String) : String :=
  match path with
  | none => ""
  | some path => " for key `" ++ path ++ "`"

/-- The message for a fault. -/
def message : Fault → String
  | .missing path => "missing configuration field " ++ quoted path
  | .wrongKind found wanted path origins =>
    "invalid type: " ++ found.words ++ ", expected " ++ wanted.words ++ pathText path ++
      originText origins
  | .tooShort length record fields path =>
    "invalid length " ++ showNat length ++ ", expected struct " ++ record ++ " with " ++
      showNat fields ++ " elements" ++ pathText path
  | .noFile path => "configuration file " ++ quoted path ++ " not found"
  | .unknownFormat path =>
    "configuration file " ++ quoted path ++ " is not of a registered file format"
  | .malformed path format => "malformed " ++ format.name ++ " in " ++ path
  | .poolBounds least greatest =>
    "database pool bounds are inconsistent (min " ++ showNat least ++ ", max " ++
      showNat greatest ++ ")"
  | .notOneOf field value allowed =>
    field ++ " '" ++ value ++ "' is not one of " ++ ", ".intercalate allowed
  | .noTemplates path => "templates.path " ++ path ++ " does not exist"
  | .described text => text

end Fault

end Setting

end Gatehouse
