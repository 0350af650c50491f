import Gatehouse.Proofs.Json.Writing
import Gatehouse.Setting.File

/-!
# Settings read from JSON

What the loosely typed readers make of values that were written as JSON.  A value of the kind that
is wanted is taken as it is; conversions come in only for other kinds.  A field is found by its name
in whatever order the members come (`Layout.take_normal`).

The keys at the top level of a file are paths, all others are names.  A table with one key that is
no more than a name is read as it stands (`ofText_eq_ok`).
-/

set_option autoImplicit false

namespace Gatehouse

namespace Setting

variable {α : Type} {origin : Option String}

/-! ## Values -/

theorem toInt32_ofInt32 (n : Int32) : toInt32 (ofJson origin (.ofInt32 n)) = .ok n := by
  have hword : int64Low ≤ n.toInt ∧ n.toInt ≤ int64High := by
    have hlow := n.le_toInt
    have hhigh := n.toInt_lt
    rw [int64Low, int64High]
    omega
  have hinteger : toInt64 (ofJson origin (.ofInt32 n)) = .ok n.toInt := by
    rw [Json.ofInt32, ofJson, toInt64, toInteger, if_pos hword]
  rw [toInt32, hinteger]
  simp only [bind, Except.bind, int32?_toInt]
  rfl

theorem toOption_ofText? (s : Option String) :
    toOption toText (ofJson origin (.ofText? s)) = .ok s := by
  cases s <;> rfl

theorem toOption_ofInt32? (n : Option Int32) :
    toOption toInt32 (ofJson origin (.ofInt32? n)) = .ok n := by
  cases n with
  | none => rfl
  | some n =>
    have hread : toInt32 (.scalar origin (.integer n.toInt)) = .ok n := toInt32_ofInt32 n
    simp [Json.ofInt32?, ofJson, toOption, hread, Except.map]

/-- Lists are read back if their items are. -/
theorem toList_array {read : Setting → Except Fault α} {write : α → Json}
    (h : ∀ a, read (ofJson origin (write a).normal) = .ok a) (as : List α) :
    toList read (ofJson origin (.array (Json.normalItems (as.map write)))) = .ok as := by
  suffices hitems : ∀ i,
      readItems read i (ofItems origin (Json.normalItems (as.map write))) = .ok as from hitems 0
  induction as with
  | nil => exact fun i => rfl
  | cons a as ih =>
    intro i
    rw [List.map_cons, Json.normalItems, ofItems, readItems, h a, ih (i + 1)]
    rfl

/-! ## Records -/

theorem lookup_ofMembers (key : String) (ms : List (String × Json)) :
    (ofMembers origin ms).lookup key = (ms.lookup key).map (ofJson origin) := by
  induction ms with
  | nil => rfl
  | cons m ms ih =>
    obtain ⟨k, v⟩ := m
    rw [ofMembers, List.lookup_cons, List.lookup_cons, ih]
    cases key == k <;> rfl

/-- A field is taken from an object by its name, whatever order its members come in. -/
theorem Layout.take_normal {ms : List (String × Json)} (h : (ms.map Prod.fst).Nodup) (l : Layout)
    (f : Field α) :
    l.take (ofJson origin (.object (Json.arranged ms))) f =
      match ms.lookup f.name with
      | some v => (f.read (ofJson origin v)).mapError (Fault.inField f.name)
      | none => f.absent.elim (.error (.missing f.name)) .ok := by
  have hlookup : (ofMembers origin (Json.arranged ms)).lookup f.name =
      (ms.lookup f.name).map (ofJson origin) := by
    rw [lookup_ofMembers]
    exact congrArg (Option.map (ofJson origin)) (Json.member?_arranged h f.name)
  rw [ofJson, take, hlookup]
  cases ms.lookup f.name <;> rfl

/-! ## Files -/

theorem withoutMark_ofList {c : Char} (h : c.toNat ≠ 0xfeff) (cs : List Char) :
    withoutMark (String.ofList (c :: cs)) = String.ofList (c :: cs) := by
  rw [withoutMark, String.toList_ofList]
  exact if_neg h

/-- A table with one key, which is a name and has a list, is read as it stands. -/
theorem ofText_eq_ok {path text key : String} {vs : List Json} (hmark : withoutMark text = text)
    (hread : Json.read text = some (.object [(key, .array vs)])) (hkey : pathOf key = [.name key]) :
    ofText path .json text =
      .ok (.table none [(key, ofJson (some (shownPath path)) (.array vs))]) := by
  rw [ofText, hmark, Format.read, hread]
  simp [ofJson, ofMembers, putAll, put, hkey, change, changeMember, overlay, empty, membersOf,
    originOf]

end Setting

end Gatehouse
