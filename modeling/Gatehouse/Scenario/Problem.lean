import Gatehouse.Scenario.Basic
import Gatehouse.Text.Quoted

/-!
# What is wrong with a scenario

Before a scenario is kept or applied it is examined field by field.  `Scenario.problems` lists every
field that breaks its rule, each with the place it stands in; a scenario is in order when the list
is empty.

Two rules are about more than one field: an instance needs an item, and no two roles may share a
name.  They are looked at only when all fields they could depend on are in order, so a `Flaw` of
this kind never hides behind another one.

The lists come in the order in which a reader of the records expects them: by field name, with
nested records where their field stands.
-/

set_option autoImplicit false

namespace Gatehouse

/-! ## Rules for single fields -/

/-- A character an identifier may start with. -/
def startsIdentifier (c : Char) : Bool := 'a' ≤ c && c ≤ 'z'

/-- A character an identifier may go on with. -/
def continuesIdentifier (c : Char) : Bool :=
  startsIdentifier c || isDigit c || c == '_' || c == '/' || c == '-'

/-- The text is an identifier: a small letter, then small letters, digits, `_`, `/` and `-`. -/
def isIdentifier (s : String) : Bool :=
  match s.toList with
  | [] => false
  | c :: cs => startsIdentifier c && cs.all continuesIdentifier

/-- The greatest length of the name of a scenario, in characters. -/
def scenarioNameLimit : Nat := 64

/-- The greatest length of the name of a role, in characters. -/
def roleNameLimit : Nat := 128

/-- The text has at least one character and at most `limit`. -/
def fits (limit : Nat) (s : String) : Bool := 1 ≤ s.length && s.length ≤ limit

/-! ## Flaws and problems -/

/-- A rule that is broken, with what breaks it. -/
inductive Flaw where
  /-- The section is no identifier. -/
  | area (value : String)
  /-- The item is neither empty nor an identifier. -/
  | item (value : String)
  /-- The action is no identifier. -/
  | action (value : String)
  /-- The instance is negative. -/
  | negativeInstance (value : Int32)
  /-- The name is empty or has more than `limit` characters. -/
  | nameLength (value : String) (limit : Nat)
  /-- An instance is given without an item. -/
  | instanceWithoutItem
  /-- Two roles have this name. -/
  | repeatedRole (name : String)
deriving DecidableEq, Repr

/-- A flaw in its place.  The field it is in follows from the flaw. -/
structure Problem where
  /-- The index of the role, if it is in one. -/
  role : Option Nat := none
  /-- The index of the line in its role, if it is in one. -/
  line : Option Nat := none
  /-- What is wrong. -/
  flaw : Flaw
deriving DecidableEq, Repr

namespace Flaw

/-- The field a flaw is in; rules about a whole record have a name of their own. -/
def field : Flaw → String
  | .area _ => "section"
  | .item _ => "item"
  | .action _ => "action"
  | .negativeInstance _ => "item_id"
  | .nameLength _ _ => "name"
  | .instanceWithoutItem => "__all__"
  | .repeatedRole _ => "__all__"

/-- The word for the kind of flaw. -/
def code : Flaw → String
  | .area _ => "regex"
  | .item _ => "regex"
  | .action _ => "regex"
  | .negativeInstance _ => "range"
  | .nameLength _ _ => "length"
  | .instanceWithoutItem => "item_id_requires_item"
  | .repeatedRole _ => "duplicate_role"

/-- The message for a flaw, if it has one. -/
def message? : Flaw → Option String
  | .area _ => some "invalid section identifier"
  | .item _ => some "invalid item identifier"
  | .action _ => some "invalid action identifier"
  | .negativeInstance _ => some "item_id must not be negative"
  | .nameLength _ _ => none
  | .instanceWithoutItem => none
  | .repeatedRole name => some ("role " ++ name ++ " defined twice")

/-- The flaw on one line of a report. -/
def text (f : Flaw) : String :=
  match f.message?, f with
  | some message, _ => message
  | none, .nameLength value limit =>
    "Validation error: length [\x7b\"min\": Number(1), \"max\": Number(" ++ showNat limit ++
      "), \"value\": String(" ++ quoted value ++ ")\x7d]"
  | none, f => "Validation error: " ++ f.code ++ " [\x7b\x7d]"

end Flaw

/-- An index in brackets. -/
def indexText (i : Nat) : String := "[" ++ showNat i ++ "]"

/-- The path of a problem from the record that was examined. -/
def Problem.path (p : Problem) : String :=
  (match p.role with
    | none => ""
    | some i => "roles" ++ indexText i ++ ".") ++
  (match p.line with
    | none => ""
    | some j => "grants" ++ indexText j ++ ".") ++ p.flaw.field

/-- All problems in one text.  Those of the scenario itself have a line of their own. -/
def reportText (problems : List Problem) : String :=
  let line (p : Problem) : String := p.path ++ ": " ++ p.flaw.text
  let (own, nested) := problems.partition (·.role.isNone)
  let nestedText := String.join (nested.map line)
  "\n".intercalate (own.map line ++ if nested.isEmpty then [] else [nestedText])

/-! ## Examining -/

/-- The flaw, if the rule is broken. -/
def Flaw.unless (ok : Bool) (flaw : Flaw) : List Flaw := if ok then [] else [flaw]

namespace GrantLine

/-- The item is empty or an identifier. -/
def isItem (s : String) : Bool := s.isEmpty || isIdentifier s

/-- The fields of a line that break their rule. -/
def fieldFlaws (l : GrantLine) : List Flaw :=
  Flaw.unless (isIdentifier l.action) (.action l.action) ++
    (match l.item with
      | none => []
      | some item => Flaw.unless (isItem item) (.item item)) ++
    (match l.itemId with
      | none => []
      | some id => Flaw.unless (0 ≤ id) (.negativeInstance id)) ++
    Flaw.unless (isIdentifier l.area) (.area l.area)

/-- An instance comes with an item. -/
def instanceHasItem (l : GrantLine) : Bool := l.instance?.isNone || l.item?.isSome

/-- Everything that is wrong with a line. -/
def flaws (l : GrantLine) : List Flaw :=
  match l.fieldFlaws with
  | [] => Flaw.unless l.instanceHasItem .instanceWithoutItem
  | flaws => flaws

/-- The problems of a line that stands alone. -/
def problems (l : GrantLine) : List Problem := l.flaws.map fun f => ⟨none, none, f⟩

end GrantLine

/-- A problem of a line that stands alone, where the line stands in a role. -/
def Problem.onLine (i j : Nat) (p : Problem) : Problem :=
  { p with role := some i, line := some j }

/-- The problems of the role at an index: first those of its lines, then its name. -/
def RoleTemplate.problems (i : Nat) (t : RoleTemplate) : List Problem :=
  t.lines.zipIdx.flatMap (fun (l, j) => l.problems.map (Problem.onLine i j)) ++
    (Flaw.unless (fits roleNameLimit t.name) (.nameLength t.name roleNameLimit)).map fun f =>
      ⟨some i, none, f⟩

/-- The first entry that an earlier one is equal to. -/
def firstRepeated? (seen : List String) : List String → Option String
  | [] => none
  | x :: xs => if x ∈ seen then some x else firstRepeated? (x :: seen) xs

namespace Scenario

/-- The problems of single fields, nested ones included. -/
def fieldProblems (s : Scenario) : List Problem :=
  (Flaw.unless (fits scenarioNameLimit s.name) (.nameLength s.name scenarioNameLimit)).map
      (fun f => ⟨none, none, f⟩) ++
    s.roles.zipIdx.flatMap fun (t, i) => t.problems i

/-- Everything that is wrong with a scenario. -/
def problems (s : Scenario) : List Problem :=
  match s.fieldProblems with
  | [] =>
    match firstRepeated? [] (s.roles.map (·.name)) with
    | none => []
    | some name => [⟨none, none, .repeatedRole name⟩]
  | problems => problems

end Scenario

/-- No entry is told exactly when the entries are distinct and none of them was seen before. -/
theorem firstRepeated?_eq_none_iff {seen xs : List String} :
    firstRepeated? seen xs = none ↔ xs.Nodup ∧ ∀ x ∈ xs, x ∉ seen := by
  induction xs generalizing seen with
  | nil => simp [firstRepeated?]
  | cons x xs ih =>
    rw [firstRepeated?]
    split
    · rename_i h
      simpa using fun _ _ h' => absurd h h'
    · rename_i h
      rw [ih, List.nodup_cons]
      constructor
      · rintro ⟨hn, hs⟩
        refine ⟨⟨fun hx => (hs x hx) (by simp), hn⟩, ?_⟩
        intro y hy
        rcases List.mem_cons.1 hy with rfl | hy
        · exact h
        · exact fun hs' => hs y hy (by simp [hs'])
      · rintro ⟨⟨hx, hn⟩, hs⟩
        refine ⟨hn, fun y hy hy' => ?_⟩
        rcases List.mem_cons.1 hy' with rfl | hy'
        · exact hx hy
        · exact hs y (by simp [hy]) hy'

end Gatehouse
