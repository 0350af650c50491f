import Gatehouse.Decimal.Power
import Gatehouse.Stamp.Basic
import Gatehouse.Text.Blank

/-!
# Reading time stamps

A date, a `T`, a time and an offset from Coordinated Universal Time, read leniently: fields may
have a single digit and blanks before them and before their separators, the year may have a sign
and then any number of digits, the letters may be small, a space may stand for the `T` and before
the offset, digits of the fraction past the ninth are dropped, and blanks may follow.

The offset is taken off at once, so that the result is in universal time.  As an offset is less
than a day, that moves the date by a day at most.
-/

set_option autoImplicit false

namespace Gatehouse

/-- What is wrong with a text that is read as a time stamp. -/
inductive StampError where
  /-- A character that cannot stand there. -/
  | invalid
  /-- A field outside its range, or a day that does not exist. -/
  | outOfRange
  /-- The text ends too early. -/
  | tooShort
  /-- Something follows the stamp. -/
  | trailing
  /-- The moment lies outside the calendar once the offset is taken off. -/
  | impossible
deriving DecidableEq, Repr

/-- The message for an error. -/
def StampError.message : StampError → String
  | .invalid => "input contains invalid characters"
  | .outOfRange => "input is out of range"
  | .tooShort => "premature end of input"
  | .trailing => "trailing input"
  | .impossible => "no possible date and time matching input"

namespace Stamp

/-- What a reader of a part gives: the part and the characters after it. -/
abbrev Read (α : Type) := Except StampError (α × List Char)

/-- The greatest number a field may hold while it is read. -/
def fieldLimit : Nat := 9223372036854775807

/-- Reads up to `width` digits, at least one. -/
def readNumber (width : Nat) (cs : List Char) : Read Nat :=
  let digits := (cs.take width).takeWhile isDigit
  match cs, digits with
  | [], _ => .error .tooShort
  | _ :: _, [] => .error .invalid
  | _ :: _, _ :: _ =>
    match digits? digits with
    | none => .error .invalid
    | some n => if n ≤ fieldLimit then .ok (n, cs.drop digits.length) else .error .outOfRange

/-- Reads a two-digit field between `low` and `high`. -/
def readField (low high : Nat) (cs : List Char) : Read Nat :=
  match readNumber 2 (dropBlanks cs) with
  | .error e => .error e
  | .ok (n, rest) => if low ≤ n ∧ n ≤ high then .ok (n, rest) else .error .outOfRange

/-- Reads a year: four digits, or a sign and any number of them. -/
def readYear (cs : List Char) : Read Int :=
  let cs := dropBlanks cs
  let signed (sign : Int) (rest : List Char) : Read Int :=
    match readNumber rest.length rest with
    | .error e => .error e
    | .ok (n, rest) =>
      let y := sign * n
      if int32Low ≤ y ∧ y ≤ int32High then .ok (y, rest) else .error .outOfRange
  match cs with
  | '-' :: rest => signed (-1) rest
  | '+' :: rest => signed 1 rest
  | _ =>
    match readNumber 4 cs with
    | .error e => .error e
    | .ok (n, rest) => .ok (n, rest)

/-- Reads a separator, blanks before it or not. -/
def readSeparator (c : Char) (cs : List Char) : Read Unit :=
  match dropBlanks cs with
  | [] => .error .tooShort
  | d :: rest => if d = c then .ok ((), rest) else .error .invalid

/-- Reads the `T` between date and time. -/
def readTimeMark : List Char → Read Unit
  | [] => .error .tooShort
  | c :: rest => if c = 't' ∨ c = 'T' ∨ c = ' ' then .ok ((), rest) else .error .invalid

/-- Reads a fraction of a second in nanoseconds, if there is one. -/
def readFraction : List Char → Read Nat
  | '.' :: cs =>
    match readNumber 9 cs with
    | .error e => .error e
    | .ok (n, rest) =>
      let used := cs.length - rest.length
      .ok (n * powerOfTen (9 - used), rest.dropWhile isDigit)
  | cs => .ok (0, cs)

/-- Reads exactly two digits. -/
def readPair : List Char → Read (Nat × Nat)
  | [] => .error .tooShort
  | [c] => if c.utf8Size < 2 then .error .tooShort else .error .invalid
  | c :: d :: rest =>
    match digitValue? c, digitValue? d with
    | some m, some n => .ok ((m, n), rest)
    | _, _ => .error .invalid

/-- Reads hours and minutes of an offset, as minutes. -/
def readOffsetDigits (cs : List Char) : Read Nat :=
  match readPair cs with
  | .error e => .error e
  | .ok ((h1, h2), rest) =>
    match readPair (rest.dropWhile fun c => c = ':' || isBlank c) with
    | .error e => .error e
    | .ok ((m1, m2), rest) =>
      if 6 ≤ m1 then .error .outOfRange
      else .ok ((10 * h1 + h2) * 60 + (10 * m1 + m2), rest)

/-- Reads an offset in minutes. -/
def readOffset (cs : List Char) : Read Int :=
  let signed (sign : Int) (rest : List Char) : Read Int :=
    match readOffsetDigits rest with
    | .error e => .error e
    | .ok (n, rest) => .ok (sign * n, rest)
  match cs with
  | [] => .error .tooShort
  | c :: rest =>
    if c = 'Z' ∨ c = 'z' then .ok (0, rest)
    else if (cs.take 3).map Char.toUpper = ['U', 'T', 'C'] then .ok (0, cs.drop 3)
    else if c = '+' then signed 1 rest
    else if c = '-' ∨ c = Char.ofNat 0x2212 then signed (-1) rest
    else .error .invalid

/-- The day after a day, as year, month and day. -/
def nextDay (year : Int) (month day : Nat) : Int × Nat × Nat :=
  if day < daysInMonth year month then (year, month, day + 1)
  else if month < 12 then (year, month + 1, 1)
  else (year + 1, 1, 1)

/-- The day before a day, as year, month and day. -/
def previousDay (year : Int) (month day : Nat) : Int × Nat × Nat :=
  if 1 < day then (year, month, day - 1)
  else if 1 < month then (year, month - 1, daysInMonth year (month - 1))
  else (year - 1, 12, 31)

/-- The moment in universal time of a local moment `offset` minutes ahead of it. -/
def takeOff (offset : Int) (t : Stamp) : Except StampError Stamp :=
  let minutes : Int := (t.hour * 60 + t.minute : Nat) - offset
  let day :=
    if minutes < 0 then previousDay t.year t.month t.day
    else if 1440 ≤ minutes then nextDay t.year t.month t.day
    else (t.year, t.month, t.day)
  let minutes := (minutes % 1440).toNat
  match Stamp.of? day.1 day.2.1 day.2.2 (minutes / 60) (minutes % 60) t.second t.nano with
  | some t => .ok t
  | none => .error .impossible

/-- The moment that a text stands for. -/
def read (s : String) : Except StampError Stamp := do
  let (year, cs) ← readYear s.toList
  let (_, cs) ← readSeparator '-' cs
  let (month, cs) ← readField 1 12 cs
  let (_, cs) ← readSeparator '-' cs
  let (day, cs) ← readField 1 31 cs
  let (_, cs) ← readTimeMark cs
  let (hour, cs) ← readField 0 23 cs
  let (_, cs) ← readSeparator ':' cs
  let (minute, cs) ← readField 0 59 cs
  let (_, cs) ← readSeparator ':' cs
  let (second, cs) ← readField 0 60 cs
  let (nano, cs) ← readFraction cs
  let (offset, cs) ← readOffset (dropBlanks cs)
  if !(dropBlanks cs).isEmpty then throw .trailing
  match Stamp.of? year month day hour minute second nano with
  | none => throw .outOfRange
  | some t => if offset.natAbs < 1440 then takeOff offset t else throw .outOfRange

end Stamp

end Gatehouse
