import Gatehouse.Json.Value
import Gatehouse.Decimal.Shortest
import Gatehouse.Stamp.Reader
import Gatehouse.Text.Quoted
import Gatehouse.Text.Truth

/-!
# Why a record cannot be read

The causes for which a JSON value is not the form of a record, and their messages.
-/

set_option autoImplicit false

namespace Gatehouse

/-- How a message calls a JSON value. -/
def Json.words : Json → String
  | .null => "null"
  | .bool b => "boolean `" ++ truthText b ++ "`"
  | .int n => "integer `" ++ showInt n ++ "`"
  | .real x => "floating point `" ++ String.ofList (x.text .literal) ++ "`"
  | .text s => "string " ++ quoted s
  | .array _ => "sequence"
  | .object _ => "map"

/-- What a JSON value should have been. -/
inductive Shape where
  | text
  | int32
  | truth
  | list
  | stamp
  /-- One of several words, with or without something that belongs to it. -/
  | choice
  | nothing
  /-- A record of a kind. -/
  | record (name : String)
deriving DecidableEq, Repr

/-- How a message calls a shape. -/
def Shape.words : Shape → String
  | .text => "a string"
  | .int32 => "i32"
  | .truth => "a boolean"
  | .list => "a sequence"
  | .stamp => "an RFC 3339 formatted date and time string"
  | .choice => "string or map"
  | .nothing => "unit"
  | .record name => "struct " ++ name

/-- Why a record cannot be read. -/
inductive ReadError where
  /-- A value has another shape; `found` is how a message calls it. -/
  | wrongShape (found : String) (wanted : Shape)
  /-- An integer does not fit into 32 bits. -/
  | outOfRange (value : Int)
  /-- A choice is an object without exactly one member. -/
  | notOneMember
  /-- A choice lacks what belongs to its word. -/
  | bareChoice
  /-- A word is none of two that may be chosen. -/
  | unknownChoice (word first second : String)
  /-- A field is missing. -/
  | missing (field : String)
  /-- An array ends before a field. -/
  | tooShort (length : Nat) (record : String) (fields : Nat)
  /-- An array goes on after the last field. -/
  | tooLong (length : Nat)
  /-- A text is no time stamp. -/
  | stamp (reason : StampError)
  /-- Something else, in words. -/
  | described (text : String)
deriving DecidableEq, Repr

/-- The message for an error. -/
def ReadError.message : ReadError → String
  | .wrongShape found wanted => "invalid type: " ++ found ++ ", expected " ++ wanted.words
  | .outOfRange value => "invalid value: integer `" ++ showInt value ++ "`, expected i32"
  | .notOneMember => "invalid value: map, expected map with a single key"
  | .bareChoice => "invalid type: unit variant, expected newtype variant"
  | .unknownChoice word first second =>
    "unknown variant `" ++ word ++ "`, expected `" ++ first ++ "` or `" ++ second ++ "`"
  | .missing field => "missing field `" ++ field ++ "`"
  | .tooShort length record fields =>
    "invalid length " ++ showNat length ++ ", expected struct " ++ record ++ " with " ++
      showNat fields ++ " elements"
  | .tooLong length => "invalid length " ++ showNat length ++ ", expected fewer elements in array"
  | .stamp reason => reason.message
  | .described text => text

end Gatehouse
