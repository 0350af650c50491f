import Gatehouse.Setting.Basic

/-!
# Paths into settings

The top level of a settings file, and the environment, name values by paths: a name, then further
names after dots and indices in brackets.  `Setting.put` writes a value at a path.  On the way it
makes tables and lists where there are none, in place of whatever else stands there, and a table
that is written onto a table is merged with it, member by member and all the way down.
-/

set_option autoImplicit false

namespace Gatehouse

namespace Setting

/-- A step of a path. -/
inductive Step where
  /-- A member of a table. -/
  | name (name : String)
  /-- An item of a list; negative indices count from the end. -/
  | index (i : Int)
deriving DecidableEq, Repr

/-- A character of a name in a path. -/
def isNameChar (c : Char) : Bool :=
  ('a' ≤ c && c ≤ 'z') || ('A' ≤ c && c ≤ 'Z') || isDigit c || c == '_' || c == '-'

/-- A path that is being read: the steps so far, last one first, and what the next characters belong
to. -/
inductive PathReader where
  /-- In a name. -/
  | inName (done : List Step) (chars : List Char)
  /-- In an index. -/
  | inIndex (done : List Step) (chars : List Char)
  /-- After an index. -/
  | afterIndex (done : List Step)

namespace PathReader

/-- The name that ends here; it must not be empty. -/
def endName? (done : List Step) (chars : List Char) : Option (List Step) :=
  if chars = [] then none else some (.name (String.ofList chars.reverse) :: done)

/-- A space or a tab. -/
def isGap (c : Char) : Bool := c == ' ' || c == '\t'

/-- The index that ends here, gaps around it or not. -/
def endIndex? (done : List Step) (chars : List Char) : Option (List Step) :=
  let inner := (chars.dropWhile isGap).reverse.dropWhile isGap
  if inner.head? = some '+' then none
  else (boundedInteger? int64Low int64High inner).map fun i => .index i :: done

/-- Takes a character between steps. -/
def between? (done : List Step) (c : Char) : Option PathReader :=
  if c = '.' then some (.inName done [])
  else if c = '[' then some (.inIndex done [])
  else none

/-- Takes a character. -/
def step? (r : PathReader) (c : Char) : Option PathReader :=
  match r with
  | .inName done chars =>
    if isNameChar c then some (.inName done (c :: chars))
    else (endName? done chars).bind fun done => between? done c
  | .inIndex done chars =>
    if c = ']' then (endIndex? done chars).map .afterIndex
    else some (.inIndex done (c :: chars))
  | .afterIndex done => between? done c

/-- The path that ends here. -/
def finish? : PathReader → Option (List Step)
  | .inName done chars => (endName? done chars).map List.reverse
  | .inIndex _ _ => none
  | .afterIndex done => some done.reverse

end PathReader

/-- The path that a key stands for.  A key that is no path is a name as it is. -/
def pathOf (key : String) : List Step :=
  match (key.toList.foldlM PathReader.step? (.inName [] [])).bind PathReader.finish? with
  | some path => path
  | none => [.name key]

/-- The members of a table; of anything else, none. -/
def membersOf : Setting → List (String × Setting)
  | .table _ members => members
  | _ => []

/-- The items of a list; of anything else, none. -/
def itemsOf : Setting → List Setting
  | .list _ items => items
  | _ => []

/-- Changes a member, which is nothing if it is missing. -/
def changeMember (name : String) (f : Setting → Setting) :
    List (String × Setting) → List (String × Setting)
  | [] => [(name, f (.scalar none .nothing))]
  | (k, v) :: rest =>
    if k = name then (k, f v) :: rest else (k, v) :: changeMember name f rest

/-- Changes an item; a list that is too short is filled up with nothing. -/
def changeItem (f : Setting → Setting) : Nat → List Setting → List Setting
  | 0, [] => [f (.scalar none .nothing)]
  | 0, v :: rest => f v :: rest
  | i + 1, [] => .scalar none .nothing :: changeItem f i []
  | i + 1, v :: rest => v :: changeItem f i rest

/-- Where a table comes from stays known as long as it is a table. -/
def originOf : Setting → Option String
  | .table origin _ => origin
  | _ => none

/-- Changes what stands at a path. -/
def change (f : Setting → Setting) : List Step → Setting → Setting
  | [], s => f s
  | .name n :: path, s => .table s.originOf (changeMember n (change f path) s.membersOf)
  | .index i :: path, s =>
    let items := s.itemsOf
    let origin := match s with
      | .list origin _ => origin
      | _ => none
    if 0 ≤ i then .list origin (changeItem (change f path) i.toNat items)
    else
      let missing := i.natAbs - items.length
      let items := List.replicate missing (.scalar none .nothing) ++ items
      .list origin (changeItem (change f path) (items.length - i.natAbs) items)

mutual

/-- Writes a setting onto another: tables are merged, anything else takes the place of what was
there. -/
def overlay (s : Setting) : Setting → Setting
  | .table _ members => .table s.originOf (overlayAll s.membersOf members)
  | .list origin items => .list origin items
  | .scalar origin value => .scalar origin value

/-- Writes members onto those of another table. -/
def overlayAll (under : List (String × Setting)) :
    List (String × Setting) → List (String × Setting)
  | [] => under
  | (k, v) :: rest => overlayAll (changeMember k (fun s => overlay s v) under) rest

end

/-- Writes a value at a path. -/
def put (s : Setting) (path : List Step) (value : Setting) : Setting :=
  change (fun old => overlay old value) path s

/-- Writes the members of a table, whose keys are paths. -/
def putAll (s : Setting) (members : List (String × Setting)) : Setting :=
  members.foldl (fun s m => s.put (pathOf m.1) m.2) s

end Setting

end Gatehouse
