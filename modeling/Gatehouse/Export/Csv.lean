/-!
# Comma-separated values

A record is a line of fields with commas between them.  A field in which a comma, a quote or a line
end occurs stands between quotes, and a quote inside it is written twice.

`Csv.text` writes records and `Csv.read?` reads them, taking a line end outside quotes, in any of
its spellings, for the end of a record.
-/

set_option autoImplicit false

namespace Gatehouse

namespace Csv

/-! ## Writing -/

/-- A field with this character stands between quotes. -/
def needsQuotes (c : Char) : Bool := c == ',' || c == '"' || c == '\n' || c == '\r'

/-- The characters of a field, each quote twice. -/
def doubled (cs : List Char) : List Char :=
  cs.flatMap fun c => if c = '"' then ['"', '"'] else [c]

/-- A field as written. -/
def fieldChars (field : String) : List Char :=
  let cs := field.toList
  if cs.any needsQuotes then '"' :: doubled cs ++ ['"'] else cs

/-- Fields as written, commas between them. -/
def fieldsChars : List String → List Char
  | [] => []
  | [field] => fieldChars field
  | field :: next :: rest => fieldChars field ++ ',' :: fieldsChars (next :: rest)

/-- A record as written, with its line end. -/
def recordChars (fields : List String) : List Char := fieldsChars fields ++ ['\n']

/-- Records as written. -/
def text (records : List (List String)) : String := String.ofList (records.flatMap recordChars)

/-! ## Reading -/

/-- Where a reader is. -/
inductive Phase where
  /-- At the start of a field, the first of its record or not. -/
  | start (first : Bool)
  /-- In a field without quotes. -/
  | plain
  /-- In a field between quotes. -/
  | inside
  /-- After a quote inside a field between quotes. -/
  | quote
  /-- After a carriage return that ended a record. -/
  | return
deriving DecidableEq, Repr

/-- A reader: where it is, the field it is in, the fields and the records before it, all of them
last one first. -/
structure Reader where
  /-- Where it is. -/
  phase : Phase
  /-- The characters of the field. -/
  field : List Char
  /-- The fields of the record. -/
  fields : List String
  /-- The records. -/
  records : List (List String)

namespace Reader

/-- The reader before a text. -/
def initial : Reader := ⟨.start true, [], [], []⟩

/-- The fields of the record, the last one included. -/
def closed (r : Reader) : List String := (String.ofList r.field.reverse :: r.fields).reverse

/-- Ends the field. -/
def endField (r : Reader) : Reader :=
  { r with phase := .start false, field := [], fields := String.ofList r.field.reverse :: r.fields }

/-- Ends the record. -/
def endRecord (r : Reader) (phase : Phase) : Reader := ⟨phase, [], [], r.closed :: r.records⟩

/-- Takes a character that may end the field. -/
def separator? (r : Reader) (c : Char) : Option Reader :=
  if c = ',' then some r.endField
  else if c = '\n' then some (r.endRecord (.start true))
  else if c = '\r' then some (r.endRecord .return)
  else none

/-- Takes the first character of a field. -/
def begin? (r : Reader) (c : Char) : Option Reader :=
  if c = '"' then some { r with phase := .inside }
  else some ((r.separator? c).getD { r with phase := .plain, field := [c] })

/-- Takes a character. -/
def step? (r : Reader) (c : Char) : Option Reader :=
  match r.phase with
  | .start _ => r.begin? c
  | .return => if c = '\n' then some { r with phase := .start true } else r.begin? c
  | .plain =>
    if c = '"' then none
    else some ((r.separator? c).getD { r with field := c :: r.field })
  | .inside =>
    if c = '"' then some { r with phase := .quote }
    else some { r with field := c :: r.field }
  | .quote =>
    if c = '"' then some { r with phase := .inside, field := c :: r.field } else r.separator? c

/-- The records after the whole text.  A record that has begun needs no line end. -/
def finish? (r : Reader) : Option (List (List String)) :=
  match r.phase with
  | .inside => none
  | .start true => some r.records.reverse
  | .return => some r.records.reverse
  | _ => some (r.closed :: r.records).reverse

end Reader

/-- The records of a text, unless a quote stands where none may. -/
def read? (s : String) : Option (List (List String)) :=
  (s.toList.foldlM Reader.step? Reader.initial).bind Reader.finish?

end Csv

end Gatehouse
