import Gatehouse.Grant.Form
import Gatehouse.Record.ReadError
import Gatehouse.Scenario.Basic

/-!
# Reading records

A record is read from an object by the names of its fields, or from an array by their order.  All
fields are looked at, and if several are wrong one error is reported:

* in an object, the fields that are there come first, by name; then those that are missing, in the
  order of the record;
* in an array, the fields come in the order of the record.

So each field yields a value or a `Complaint`, an error with its `Rank`, and putting fields together
keeps the complaint of the lowest rank.  A field that may be missing from an object says what stands
for it then, and likewise for the end of an array; the two are not the same fields.
-/

set_option autoImplicit false

namespace Gatehouse

namespace Record

open Std

/-! ## Complaints -/

/-- The place of an error among the errors of a record. -/
structure Rank where
  /-- The field is missing from an object. -/
  missing : Bool
  /-- The name of a field that is there. -/
  name : String
  /-- The place of the field in the record. -/
  index : Nat
deriving DecidableEq, Repr

/-- Fields that are there come before missing ones. -/
def Rank.order : Rank → Rank → Ordering :=
  compareLex (compareOn missing) (compareLex (compareOn name) (compareOn index))

/-- An error with its rank. -/
structure Complaint where
  /-- The rank. -/
  rank : Rank
  /-- The error. -/
  error : ReadError
deriving DecidableEq, Repr

/-- Some fields of a record, put together, or the first complaint about them. -/
def Parts (α : Type) := Except Complaint α

namespace Parts

variable {α β : Type}

/-- Fields that need nothing. -/
def of (a : α) : Parts α := .ok a

/-- One more field. -/
def and (f : Parts (α → β)) (x : Parts α) : Parts β :=
  match f, x with
  | .ok f, .ok a => .ok (f a)
  | .ok _, .error c => .error c
  | .error c, .ok _ => .error c
  | .error c, .error d => .error (if Rank.order d.rank c.rank = .lt then d else c)

end Parts

/-! ## Sources -/

/-- What the fields of a record are taken from. -/
inductive Source where
  /-- The members of an object. -/
  | members (ms : List (String × Json))
  /-- The items of an array. -/
  | items (vs : List Json)

/-- A field of a record. -/
structure Field (α : Type) where
  /-- Its name. -/
  name : String
  /-- Its place. -/
  index : Nat
  /-- How its value is read. -/
  read : Json → Except ReadError α
  /-- What stands for it in an object without it. -/
  absent : Option α := none
  /-- What stands for it in an array that ends before it. -/
  cut : Option α := none

/-- A record: its name and the number of its fields. -/
structure Layout where
  /-- The name. -/
  name : String
  /-- The number of fields. -/
  fields : Nat

namespace Layout

variable {α : Type}

/-- The value, or a complaint of a rank. -/
def ranked (rank : Rank) : Except ReadError α → Parts α
  | .ok a => .ok a
  | .error e => .error ⟨rank, e⟩

/-- Takes a field from a source. -/
def take (l : Layout) (source : Source) (f : Field α) : Parts α :=
  match source with
  | .members ms =>
    match Json.member? f.name ms with
    | some v => ranked ⟨false, f.name, 0⟩ (f.read v)
    | none => ranked ⟨true, "", f.index⟩ (f.absent.elim (.error (.missing f.name)) .ok)
  | .items vs =>
    ranked ⟨false, "", f.index⟩ <|
      match vs[f.index]? with
      | some v => f.read v
      | none => f.cut.elim (.error (.tooShort f.index l.name l.fields)) .ok

/-- Reads a record from a value: `build` puts the fields together. -/
def read (l : Layout) (v : Json) (build : Source → Parts α) : Except ReadError α :=
  match v with
  | .object ms => (build (.members ms)).mapError (·.error)
  | .array vs =>
    match build (.items vs) with
    | .error c => .error c.error
    | .ok a => if l.fields < vs.length then .error (.tooLong vs.length) else .ok a
  | v => .error (.wrongShape v.words (.record l.name))

end Layout

/-! ## Kinds of fields -/

/-- A value or null. -/
def orNull {α : Type} (read : Json → Except ReadError α) : Json → Except ReadError (Option α)
  | .null => .ok none
  | v => (read v).map some

namespace Field

/-- A field that must be there. -/
def required {α : Type} (index : Nat) (name : String) (read : Json → Except ReadError α) :
    Field α := ⟨name, index, read, none, none⟩

/-- A field that may be null or missing; an array must not end before it. -/
def optional {α : Type} (index : Nat) (name : String) (read : Json → Except ReadError α) :
    Field (Option α) := ⟨name, index, orNull read, some none, none⟩

/-- A field that may be missing, also from the end of an array. -/
def defaulted {α : Type} (index : Nat) (name : String) (read : Json → Except ReadError α)
    (value : α) : Field α := ⟨name, index, read, some value, some value⟩

end Field

end Record

open Record

/-! ## Single values -/

namespace Json

/-- Complains about the shape of a value. -/
def refuse {α : Type} (v : Json) (wanted : Shape) : Except ReadError α :=
  .error (.wrongShape v.words wanted)

/-- A text. -/
def toText : Json → Except ReadError String
  | .text s => .ok s
  | v => v.refuse .text

/-- A truth value. -/
def toBool : Json → Except ReadError Bool
  | .bool b => .ok b
  | v => v.refuse .truth

/-- An integer of 32 bits. -/
def toInt32 : Json → Except ReadError Int32
  | .int n =>
    match int32? n with
    | some i => .ok i
    | none => .error (.outOfRange n)
  | v => v.refuse .int32

/-- A time stamp. -/
def toStamp : Json → Except ReadError Stamp
  | .text s => (Stamp.read s).mapError .stamp
  | v => v.refuse .stamp

/-- A list. -/
def toList {α : Type} (read : Json → Except ReadError α) : Json → Except ReadError (List α)
  | .array vs => vs.mapM read
  | v => v.refuse .list

/-- A word with the value that belongs to it, if there is one. -/
def toChoice (first second : String) (v : Json) : Except ReadError (String × Option Json) :=
  let known (word : String) (rest : Option Json) : Except ReadError (String × Option Json) :=
    if word = first ∨ word = second then .ok (word, rest)
    else .error (.unknownChoice word first second)
  match v with
  | .text word => known word none
  | .object [(word, rest)] => known word (some rest)
  | .object _ => .error .notOneMember
  | v => v.refuse .choice

end Json

/-- The identity that a number stands for. -/
def RoleId.ofJson (v : Json) : Except ReadError RoleId := v.toInt32.map .mk

/-- The identity that a number stands for. -/
def UserId.ofJson (v : Json) : Except ReadError UserId := v.toInt32.map .mk

/-- The identity that a number stands for. -/
def GrantId.ofJson (v : Json) : Except ReadError GrantId := v.toInt32.map .mk

/-- Reads a rule, a word that nothing belongs to. -/
def Rule.ofJson (v : Json) : Except ReadError Rule := do
  let (word, rest) ← v.toChoice "allow" "deny"
  match rest with
  | none => pure ()
  | some .null => pure ()
  | some rest => rest.refuse .nothing
  return if word = "allow" then .allow else .deny

/-- Reads an owner, a word with an identity. -/
def Owner.ofJson (v : Json) : Except ReadError Owner := do
  match ← v.toChoice "role" "user" with
  | (_, none) => throw .bareChoice
  | (word, some id) =>
    if word = "role" then return .role (← RoleId.ofJson id) else return .user (← UserId.ofJson id)

/-! ## Records -/

/-- Reads a role. -/
def Role.ofJson (v : Json) : Except ReadError Role :=
  let l : Layout := ⟨"Role", 6⟩
  l.read v fun s =>
    Parts.of (fun id name canLogin isAdmin privateLabels at_ =>
        Role.mk id name ⟨canLogin, isAdmin, privateLabels⟩ at_)
      |>.and (l.take s (.required 0 "id" RoleId.ofJson))
      |>.and (l.take s (.required 1 "name" Json.toText))
      |>.and (l.take s (.required 2 "can_login" Json.toBool))
      |>.and (l.take s (.required 3 "is_admin" Json.toBool))
      |>.and (l.take s (.required 4 "private_labels" Json.toBool))
      |>.and (l.take s (.optional 5 "public_profile_allowed_at" Json.toStamp))

/-- Reads what is given to create a role. -/
def NewRole.ofJson (v : Json) : Except ReadError NewRole :=
  let l : Layout := ⟨"CreateRoleRequest", 5⟩
  l.read v fun s =>
    Parts.of (fun name canLogin isAdmin privateLabels at_ =>
        NewRole.mk name ⟨canLogin, isAdmin, privateLabels⟩ at_)
      |>.and (l.take s (.required 0 "name" Json.toText))
      |>.and (l.take s (.defaulted 1 "can_login" Json.toBool false))
      |>.and (l.take s (.defaulted 2 "is_admin" Json.toBool false))
      |>.and (l.take s (.defaulted 3 "private_labels" Json.toBool false))
      |>.and (l.take s (.optional 4 "public_profile_allowed_at" Json.toStamp))

/-- Reads a change of a role. -/
def RoleChange.ofJson (v : Json) : Except ReadError RoleChange :=
  let l : Layout := ⟨"UpdateRoleRequest", 4⟩
  l.read v fun s =>
    Parts.of RoleChange.mk
      |>.and (l.take s (.optional 0 "name" Json.toText))
      |>.and (l.take s (.optional 1 "can_login" Json.toBool))
      |>.and (l.take s (.optional 2 "is_admin" Json.toBool))
      |>.and (l.take s (.optional 3 "private_labels" Json.toBool))

/-- Reads a link. -/
def Link.ofJson (v : Json) : Except ReadError Link :=
  let l : Layout := ⟨"UserRole", 2⟩
  l.read v fun s =>
    Parts.of Link.mk
      |>.and (l.take s (.required 0 "user_id" UserId.ofJson))
      |>.and (l.take s (.required 1 "role_id" RoleId.ofJson))

/-- Reads a grant. -/
def Grant.ofJson (v : Json) : Except ReadError Grant :=
  let l : Layout := ⟨"Grant", 10⟩
  l.read v fun s =>
    Parts.of (fun id owner area item itemId rule itemRule action extra active =>
        Grant.mk ⟨area, item, itemId, rule, itemRule, action, extra, active⟩ id owner)
      |>.and (l.take s (.required 0 "id" GrantId.ofJson))
      |>.and (l.take s (.required 1 "owner" Owner.ofJson))
      |>.and (l.take s (.required 2 "section" Json.toText))
      |>.and (l.take s (.optional 3 "item" Json.toText))
      |>.and (l.take s (.optional 4 "item_id" Json.toInt32))
      |>.and (l.take s (.required 5 "rule_type" Rule.ofJson))
      |>.and (l.take s (.optional 6 "item_rule" Json.toText))
      |>.and (l.take s (.required 7 "action" Json.toText))
      |>.and (l.take s (.optional 8 "extra" Json.toText))
      |>.and (l.take s (.required 9 "active" Json.toBool))

/-- Reads a grant as it is asked for. -/
def GrantForm.ofJson (v : Json) : Except ReadError GrantForm :=
  let l : Layout := ⟨"CreateGrantRequest", 10⟩
  l.read v fun s =>
    Parts.of (fun role user area item itemId rule itemRule action extra active =>
        GrantForm.mk ⟨area, item, itemId, rule, itemRule, action, extra, active⟩ role user)
      |>.and (l.take s (.optional 0 "role_id" RoleId.ofJson))
      |>.and (l.take s (.optional 1 "user_id" UserId.ofJson))
      |>.and (l.take s (.required 2 "section" Json.toText))
      |>.and (l.take s (.optional 3 "item" Json.toText))
      |>.and (l.take s (.optional 4 "item_id" Json.toInt32))
      |>.and (l.take s (.defaulted 5 "rule_type" Rule.ofJson .allow))
      |>.and (l.take s (.optional 6 "item_rule" Json.toText))
      |>.and (l.take s (.required 7 "action" Json.toText))
      |>.and (l.take s (.optional 8 "extra" Json.toText))
      |>.and (l.take s (.defaulted 9 "active" Json.toBool true))

/-- Reads a line. -/
def GrantLine.ofJson (v : Json) : Except ReadError GrantLine :=
  let l : Layout := ⟨"GrantDef", 4⟩
  l.read v fun s =>
    Parts.of GrantLine.mk
      |>.and (l.take s (.required 0 "section" Json.toText))
      |>.and (l.take s (.defaulted 1 "item" (orNull Json.toText) none))
      |>.and (l.take s (.required 2 "action" Json.toText))
      |>.and (l.take s (.defaulted 3 "item_id" (orNull Json.toInt32) none))

/-- Reads the template of a role. -/
def RoleTemplate.ofJson (v : Json) : Except ReadError RoleTemplate :=
  let l : Layout := ⟨"RoleDef", 5⟩
  l.read v fun s =>
    Parts.of RoleTemplate.mk
      |>.and (l.take s (.required 0 "name" Json.toText))
      |>.and (l.take s (.defaulted 1 "can_login" Json.toBool false))
      |>.and (l.take s (.defaulted 2 "is_admin" Json.toBool false))
      |>.and (l.take s (.defaulted 3 "description" Json.toText ""))
      |>.and (l.take s (.defaulted 4 "grants" (Json.toList GrantLine.ofJson) []))

/-- Reads a scenario. -/
def Scenario.ofJson (v : Json) : Except ReadError Scenario :=
  let l : Layout := ⟨"Scenario", 3⟩
  l.read v fun s =>
    Parts.of Scenario.mk
      |>.and (l.take s (.required 0 "name" Json.toText))
      |>.and (l.take s (.defaulted 1 "description" Json.toText ""))
      |>.and (l.take s (.required 2 "roles" (Json.toList RoleTemplate.ofJson)))

end Gatehouse
