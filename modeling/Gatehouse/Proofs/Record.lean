import Gatehouse.Proofs.Json.Writing
import Gatehouse.Record.Reader
import Gatehouse.Record.Writer

/-!
# Records are read from what is written for them

A record is written as an object with all its fields and read by the names of its fields, so it does
not matter that the reader of texts delivers the members in another order (`Layout.take_arranged`).
What the kinds of fields make of the values written for them is below; lists are given in normal
form, as they come from a text.
-/

set_option autoImplicit false

namespace Gatehouse

open Record

/-- A field is taken from members in the order of their keys as from those that were written. -/
theorem Record.Layout.take_arranged {α : Type} {ms : List (String × Json)}
    (h : (ms.map Prod.fst).Nodup) (l : Layout) (f : Field α) :
    l.take (.members (Json.arranged ms)) f = l.take (.members ms) f := by
  rw [take, take, Json.member?_arranged h]

namespace Json

variable {α : Type} {read : Json → Except ReadError α} {write : α → Json}

/-- Lists are read back if their items are, from whatever is made of these. -/
theorem toList_map {f : Json → Json} (h : ∀ a, read (f (write a)) = .ok a) (as : List α) :
    toList read (.array ((as.map write).map f)) = .ok as := by
  rw [toList, List.map_map]
  induction as with
  | nil => rfl
  | cons a as ih =>
    rw [List.map_cons, List.mapM_cons, ih, Function.comp_apply, h a]
    rfl

theorem toList_normalItems (h : ∀ a, read (write a).normal = .ok a) (as : List α) :
    toList read (.array (normalItems (as.map write))) = .ok as := by
  rw [normalItems_eq_map]
  exact toList_map h as

theorem orNull_toText (s : Option String) : orNull toText (ofText? s) = .ok s := by
  cases s <;> rfl

theorem orNull_toInt32 (n : Option Int32) : orNull toInt32 (ofInt32? n) = .ok n := by
  cases n with
  | none => rfl
  | some n => simp [orNull, ofInt32?, toInt32, int32?_toInt, Except.map]

end Json

theorem RoleId.ofJson_normal (id : RoleId) : RoleId.ofJson id.toJson.normal = .ok id := by
  simp [RoleId.ofJson, RoleId.toJson, Json.ofInt32, Json.normal, Json.toInt32, int32?_toInt,
    Except.map]

end Gatehouse
