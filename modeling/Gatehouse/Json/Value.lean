import Gatehouse.Decimal.Binary64
import Gatehouse.Decimal.Integer

/-!
# JSON values

Records are read from and written to values of this type.  An object is a list of members: an
encoder lists them in the order in which the record declares them, the reader of texts
(`Gatehouse.Json.Reader`) delivers them in the order of their keys with one member a key.  Look-ups
do not depend on the order.
-/

set_option autoImplicit false

namespace Gatehouse

/-- A JSON value.  Integers of up to 64 bits are kept exactly, all other numbers are binary
floating point. -/
inductive Json where
  | null
  | bool (value : Bool)
  | int (value : Int)
  | real (value : Binary64)
  | text (value : String)
  | array (items : List Json)
  | object (members : List (String × Json))
deriving Repr, Inhabited

namespace Json

/-- The value of a member. -/
def member? (key : String) (members : List (String × Json)) : Option Json := members.lookup key

/-- A text or nothing. -/
def ofText? : Option String → Json
  | none => .null
  | some s => .text s

/-- An integer of 32 bits. -/
def ofInt32 (n : Int32) : Json := .int n.toInt

/-- An integer of 32 bits or nothing. -/
def ofInt32? : Option Int32 → Json
  | none => .null
  | some n => .int n.toInt

/-- A count. -/
def ofCount (n : Nat) : Json := .int n

/-- A list of texts. -/
def ofTexts (xs : List String) : Json := .array (xs.map .text)

/-- Writes a member of an object whose members are in the order of their keys; a member with the
same key is replaced. -/
def putMember (key : String) (value : Json) : List (String × Json) → List (String × Json)
  | [] => [(key, value)]
  | (k, v) :: rest =>
    match compare key k with
    | .lt => (key, value) :: (k, v) :: rest
    | .eq => (key, value) :: rest
    | .gt => (k, v) :: putMember key value rest

/-- The members in the order of their keys; of several with one key the last stays. -/
def arranged (members : List (String × Json)) : List (String × Json) :=
  members.foldl (fun done (k, v) => putMember k v done) []

end Json

end Gatehouse
