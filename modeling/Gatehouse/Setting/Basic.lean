import Gatehouse.Decimal.Real
import Gatehouse.Json.Value
import Gatehouse.Setting.Fault
import Gatehouse.Text.Lowercase

/-!
# Loosely typed settings

A `Setting` is a value as it comes from a settings file or from the environment, together with where
it comes from.  Whoever reads it says what is wanted, and values of another kind are converted where
that makes sense: a text may be wanted where a number stands, a truth value where a word or a number
stands, an integer where a number or a word stands.

The place a value comes from is told in messages about its kind, but not in messages about an
integer that is too large for its field: such a message is about the converted value.
-/

set_option autoImplicit false

namespace Gatehouse

/-- A single value. -/
inductive Scalar where
  /-- No value. -/
  | nothing
  /-- A truth value. -/
  | truth (value : Bool)
  /-- An integer of 64 bits, with a sign or without. -/
  | integer (value : Int)
  /-- A number. -/
  | number (value : Binary64)
  /-- A text. -/
  | text (value : String)
deriving DecidableEq, Repr

/-- A value with where it comes from, if that is known. -/
inductive Setting where
  /-- A single value. -/
  | scalar (origin : Option String) (value : Scalar)
  /-- A list. -/
  | list (origin : Option String) (items : List Setting)
  /-- A table. -/
  | table (origin : Option String) (members : List (String × Setting))
deriving Inhabited

namespace Setting

/-- A table without members that comes from nowhere. -/
def empty : Setting := .table none []

/-- Where a setting comes from. -/
def origins : Setting → List String
  | .scalar origin _ => origin.toList
  | .list origin _ => origin.toList
  | .table origin _ => origin.toList

mutual

/-- The settings that a JSON value stands for, all from one place. -/
def ofJson (origin : Option String) : Json → Setting
  | .null => .scalar origin .nothing
  | .bool b => .scalar origin (.truth b)
  | .int n => .scalar origin (.integer n)
  | .real x => .scalar origin (.number x)
  | .text s => .scalar origin (.text s)
  | .array vs => .list origin (ofItems origin vs)
  | .object ms => .table origin (ofMembers origin ms)

/-- The settings that JSON values stand for. -/
def ofItems (origin : Option String) : List Json → List Setting
  | [] => []
  | v :: vs => ofJson origin v :: ofItems origin vs

/-- The settings that the members of a JSON object stand for. -/
def ofMembers (origin : Option String) : List (String × Json) → List (String × Setting)
  | [] => []
  | (k, v) :: ms => (k, ofJson origin v) :: ofMembers origin ms

end

/-! ## What a setting is -/

/-- How the width of an integer is told: a value that fits is one with a sign. -/
def wide (n : Int) : Found := if n ≤ int64High then .signed n else .unsigned n

/-- A setting as the readers of single values call it. -/
def found : Setting → Found
  | .scalar _ .nothing => .nothing
  | .scalar _ (.truth b) => .truth b
  | .scalar _ (.integer n) => wide n
  | .scalar _ (.number x) => .number x
  | .scalar _ (.text s) => .text s
  | .list _ _ => .list
  | .table _ _ => .table

/-- A setting as the readers of lists and records call it. -/
def foundPlainly : Setting → Found
  | .scalar _ (.integer n) => .integer n
  | .scalar _ (.number x) => .pointed x
  | s => s.found

/-- Complains about the kind of a single value. -/
def refuse {α : Type} (s : Setting) (wanted : Wanted) : Except Fault α :=
  .error (.wrongKind s.found wanted none s.origins)

/-- Complains about what stands in the place of a list or record. -/
def refusePlainly {α : Type} (s : Setting) (wanted : Wanted) : Except Fault α :=
  .error (.wrongKind s.foundPlainly wanted none [])

/-! ## Single values -/

/-- The truth value that a word in lower case stands for. -/
def truthWord? (word : String) : Option Bool :=
  if word = "true" ∨ word = "on" ∨ word = "yes" then some true
  else if word = "false" ∨ word = "off" ∨ word = "no" then some false
  else none

/-- A truth value: a word for one or a digit, or a number that is zero or not. -/
def toBool (s : Setting) : Except Fault Bool :=
  match s with
  | .scalar _ (.truth b) => .ok b
  | .scalar _ (.integer n) => .ok (n != 0)
  | .scalar _ (.number x) => .ok !x.isZero
  | .scalar origin (.text t) =>
    let word := lowercase t
    match truthWord? word with
    | some b => .ok b
    | none =>
      if word = "1" then .ok true
      else if word = "0" then .ok false
      else refuse (.scalar origin (.text word)) .truth
  | s => s.refuse .truth

/-- An integer between two bounds: a word for a truth value, an integer in decimal, or a number,
rounded and held within the bounds. -/
def toInteger (s : Setting) (low high : Int) (narrow : Wanted) : Except Fault Int :=
  match s with
  | .scalar _ (.truth b) => .ok (if b then 1 else 0)
  | .scalar _ (.integer n) => if low ≤ n ∧ n ≤ high then .ok n else s.refuse narrow
  | .scalar _ (.number x) => .ok (x.toBounded low high)
  | .scalar _ (.text t) =>
    match truthWord? (lowercase t) with
    | some b => .ok (if b then 1 else 0)
    | none =>
      match boundedInteger? low high t.toList with
      | some n => .ok n
      | none => s.refuse .integer
  | s => s.refuse .integer

/-- An integer of 64 bits with a sign. -/
def toInt64 (s : Setting) : Except Fault Int := s.toInteger int64Low int64High .int64

/-- An integer of 64 bits without a sign. -/
def toUint64 (s : Setting) : Except Fault Nat :=
  (s.toInteger 0 uint64High .uint64).map Int.toNat

/-- An integer of 32 bits with a sign. -/
def toInt32 (s : Setting) : Except Fault Int32 := do
  let n ← s.toInt64
  match int32? n with
  | some i => return i
  | none => throw (.wrongKind (.signed n) .int32 none [])

/-- An integer of 32 bits without a sign. -/
def toUint32 (s : Setting) : Except Fault Nat := do
  let n ← s.toUint64
  if (n : Int) ≤ uint32High then return n
  throw (.wrongKind (.unsigned n) .uint32 none [])

/-- A text; numbers and truth values are written out. -/
def toText : Setting → Except Fault String
  | .scalar _ (.truth b) => .ok (truthText b)
  | .scalar _ (.integer n) => .ok (showInt n)
  | .scalar _ (.number x) => .ok (String.ofList (x.text .plain))
  | .scalar _ (.text t) => .ok t
  | s => s.refuse .text

/-- A value that may be left out. -/
def toOption {α : Type} (read : Setting → Except Fault α) : Setting → Except Fault (Option α)
  | .scalar _ .nothing => .ok none
  | s => (read s).map some

/-! ## Lists and records -/

/-- Items, each with its index. -/
def readItems {α : Type} (read : Setting → Except Fault α) :
    Nat → List Setting → Except Fault (List α)
  | _, [] => .ok []
  | i, s :: rest => do
    let a ← (read s).mapError (Fault.atIndex i)
    return a :: (← readItems read (i + 1) rest)

/-- A list. -/
def toList {α : Type} (read : Setting → Except Fault α) : Setting → Except Fault (List α)
  | .list _ items => readItems read 0 items
  | s => s.refusePlainly .list

/-- A record: its name and the number of its fields. -/
structure Layout where
  /-- The name. -/
  name : String
  /-- The number of fields. -/
  fields : Nat

/-- A field of a record. -/
structure Field (α : Type) where
  /-- Its name. -/
  name : String
  /-- Its place. -/
  index : Nat
  /-- How its value is read. -/
  read : Setting → Except Fault α
  /-- What stands for it in a table without it. -/
  absent : Option α := none
  /-- What stands for it in a list that ends before it. -/
  cut : Option α := none

namespace Layout

variable {α : Type}

/-- Takes a field from a record, by its name from a table and by its place from a list. -/
def take (l : Layout) (s : Setting) (f : Field α) : Except Fault α :=
  match s with
  | .table _ members =>
    match members.lookup f.name with
    | some v => (f.read v).mapError (Fault.inField f.name)
    | none => f.absent.elim (.error (.missing f.name)) .ok
  | .list _ items =>
    match items[f.index]? with
    | some v => (f.read v).mapError (Fault.atIndex f.index)
    | none => f.cut.elim (.error (.tooShort f.index l.name l.fields none)) .ok
  | s => s.refusePlainly (.record l.name)

end Layout

namespace Field

/-- A field that must be there. -/
def required {α : Type} (index : Nat) (name : String) (read : Setting → Except Fault α) :
    Field α := ⟨name, index, read, none, none⟩

/-- A field that may be missing from a table. -/
def optional {α : Type} (index : Nat) (name : String) (read : Setting → Except Fault α) :
    Field (Option α) := ⟨name, index, toOption read, some none, none⟩

/-- A field that may be missing, also from the end of a list. -/
def defaulted {α : Type} (index : Nat) (name : String) (read : Setting → Except Fault α)
    (value : α) : Field α := ⟨name, index, read, some value, some value⟩

end Field

end Setting

end Gatehouse
