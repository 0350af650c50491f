import Gatehouse.Decimal.Real
import Gatehouse.Json.Value
import Gatehouse.Stamp.Basic
import Gatehouse.Text.Hexadecimal

/-!
# Single values in TOML

The values of TOML that have no parts: strings in their four spellings, truth values, integers,
floating-point numbers, dates and times.  A reader takes the characters from the start of a value
and gives the value with the characters after it; dates and times become texts.
-/

set_option autoImplicit false

namespace Gatehouse

namespace Toml

/-! ## Strings -/

/-- A character that may stand for itself in a string or a comment: no control character but the
tab. -/
def isPrintable (c : Char) : Bool := c == '\t' || (32 ≤ c.toNat && c.toNat != 127)

/-- The character that a letter after a backslash stands for. -/
def shortEscape? (c : Char) : Option Char :=
  if c = 'b' then some (Char.ofNat 8)
  else if c = 't' then some '\t'
  else if c = 'n' then some '\n'
  else if c = 'f' then some (Char.ofNat 12)
  else if c = 'r' then some '\r'
  else if c = 'e' then some (Char.ofNat 27)
  else if c = '"' ∨ c = '\\' then some c
  else none

/-- Puts a character before what has been read. -/
def push (c : Char) : Option (List Char × List Char) → Option (List Char × List Char)
  | some (cs, rest) => some (c :: cs, rest)
  | none => none

/-- Reads an escape after its backslash. -/
def readEscape : List Char → Option (Char × List Char)
  | 'x' :: a :: b :: rest => (hexChar? [a, b]).map (·, rest)
  | 'u' :: a :: b :: c :: d :: rest => (hexChar? [a, b, c, d]).map (·, rest)
  | 'U' :: a :: b :: c :: d :: e :: f :: g :: h :: rest =>
    (hexChar? [a, b, c, d, e, f, g, h]).map (·, rest)
  | c :: rest => (shortEscape? c).map (·, rest)
  | [] => none

/-- The number of characters after the backslash of an escape. -/
def escapeLength : List Char → Nat
  | 'x' :: _ => 3
  | 'u' :: _ => 5
  | 'U' :: _ => 9
  | _ => 1

/-- Reads the rest of a string between quotes on one line.  The first `skip` characters belong to an
escape that has been read. -/
def readBasic (skip : Nat) : List Char → Option (List Char × List Char)
  | [] => none
  | c :: rest =>
    if 0 < skip then readBasic (skip - 1) rest
    else if c = '"' then some ([], rest)
    else if c = '\\' then
      match readEscape rest with
      | some (x, _) => push x (readBasic (escapeLength rest) rest)
      | none => none
    else if isPrintable c then push c (readBasic 0 rest)
    else none

/-- Reads the rest of a string between apostrophes on one line. -/
def readLiteral : List Char → Option (List Char × List Char)
  | [] => none
  | c :: rest =>
    if c = '\'' then some ([], rest)
    else if isPrintable c then push c (readLiteral rest)
    else none

/-- The number of quotes that end a string over several lines here, and of those the ones that
belong to the string; `none` if it goes on. -/
def closing? (quote : Char) (cs : List Char) : Option (Nat × Nat) :=
  let n := (cs.take 5).takeWhile (· = quote) |>.length
  if n < 3 then none else some (n, n - 3)

/-- Where a reader of a string over several lines is. -/
inductive Gap where
  /-- Inside the string. -/
  | inside
  /-- Among characters that have been read already. -/
  | skip (n : Nat)
  /-- After a backslash at the end of a line, up to the next character that shows. -/
  | blank
deriving DecidableEq

/-- A line end begins here: the characters after it. -/
def lineEnd? : List Char → Option (List Char)
  | '\n' :: rest => some rest
  | '\r' :: '\n' :: rest => some rest
  | _ => none

/-- Blank characters and a line end follow. -/
def endsLine (cs : List Char) : Bool :=
  (lineEnd? (cs.dropWhile fun c => c == ' ' || c == '\t')).isSome

/-- Reads the rest of a string over several lines; `escapes` tells whether a backslash means
anything.  A line end is kept as it stands; a carriage return is only ever its first half. -/
def readLines (quote : Char) (escapes : Bool) (gap : Gap) :
    List Char → Option (List Char × List Char)
  | [] => none
  | c :: rest =>
    let startsPair := c == '\r' && rest.head? == some '\n'
    let inside (_ : Unit) : Option (List Char × List Char) :=
      match closing? quote (c :: rest) with
      | some (n, own) => some (List.replicate own quote, (c :: rest).drop n)
      | none =>
        if escapes && c == '\\' then
          if endsLine rest then readLines quote escapes .blank rest
          else match readEscape rest with
            | some (x, _) => push x (readLines quote escapes (.skip (escapeLength rest)) rest)
            | none => none
        else if c = '\n' || isPrintable c || startsPair then
          push c (readLines quote escapes .inside rest)
        else none
    match gap with
    | .inside => inside ()
    | .skip 0 => inside ()
    | .skip (n + 1) => readLines quote escapes (if n = 0 then .inside else .skip n) rest
    | .blank =>
      if c = ' ' || c = '\t' || c = '\n' || startsPair then readLines quote escapes .blank rest
      else inside ()

/-- Drops the line end right after the opening quotes. -/
def dropFirstLineEnd (cs : List Char) : List Char := (lineEnd? cs).getD cs

/-- Reads a string, from its opening quote on. -/
def readString : List Char → Option (String × List Char)
  | '"' :: '"' :: '"' :: rest =>
    (readLines '"' true .inside (dropFirstLineEnd rest)).map fun (s, rest) =>
      (String.ofList s, rest)
  | '\'' :: '\'' :: '\'' :: rest =>
    (readLines '\'' false .inside (dropFirstLineEnd rest)).map fun (s, rest) =>
      (String.ofList s, rest)
  | '"' :: rest => (readBasic 0 rest).map fun (s, rest) => (String.ofList s, rest)
  | '\'' :: rest => (readLiteral rest).map fun (s, rest) => (String.ofList s, rest)
  | _ => none

/-! ## Numbers -/

/-- Every underscore stands between two digits. -/
def underscoresFit (isDigitHere : Char → Bool) : List Char → Bool
  | [] => true
  | '_' :: _ => false
  | [_] => true
  | a :: '_' :: c :: rest =>
    isDigitHere a && isDigitHere c && underscoresFit isDigitHere (c :: rest)
  | _ :: c :: rest => underscoresFit isDigitHere (c :: rest)

/-- The characters without underscores. -/
def withoutUnderscores (cs : List Char) : List Char := cs.filter (· ≠ '_')

/-- The number in a base that a list of digits stands for. -/
def inBase? (base : Nat) (cs : List Char) : Option Int :=
  match cs with
  | [] => none
  | cs =>
    (cs.foldlM (fun n c => (hexValue? c).bind fun d =>
      if d < base then some (base * n + d) else none) 0).map Int.ofNat

/-- The sign at the start, and the rest. -/
def splitSign : List Char → Bool × List Char
  | '-' :: cs => (true, cs)
  | '+' :: cs => (false, cs)
  | cs => (false, cs)

/-- A decimal without superfluous zeros at its start. -/
def isPlainDecimal : List Char → Bool
  | [] => false
  | ['0'] => true
  | '0' :: _ => false
  | cs => cs.all isDigit

/-- The integer that a word stands for. -/
def integer? (word : List Char) : Option Int :=
  let inWord (base : Nat) (digits : List Char) : Option Int :=
    if underscoresFit (fun c => (hexValue? c).isSome) digits then
      inBase? base (withoutUnderscores digits)
    else none
  let value := match word with
    | '0' :: 'x' :: digits => inWord 16 digits
    | '0' :: 'o' :: digits => inWord 8 digits
    | '0' :: 'b' :: digits => inWord 2 digits
    | word =>
      let (negative, digits) := splitSign word
      let plain := withoutUnderscores digits
      if underscoresFit isDigit digits && isPlainDecimal plain then
        (digits? plain).map fun n => if negative then -(n : Int) else n
      else none
  value.filter fun n => int64Low ≤ n && n ≤ int64High

/-- The floating-point number that a word stands for. -/
def real? (word : List Char) : Option Binary64 :=
  let (negative, magnitude) := splitSign word
  if magnitude = "inf".toList then some (.infinite negative)
  else if magnitude = "nan".toList then some .nan
  else
    let plain := withoutUnderscores magnitude
    let (whole, rest) := spanDigits plain
    let wellFormed := match rest with
      | '.' :: rest =>
        let (fraction, rest) := spanDigits rest
        fraction != [] && (rest = [] || rest.head? == some 'e' || rest.head? == some 'E')
      | c :: _ => c == 'e' || c == 'E'
      | [] => false
    if underscoresFit isDigit magnitude && isPlainDecimal whole && wellFormed then
      (Gatehouse.real? (String.ofList ((if negative then ['-'] else []) ++ plain))).filter
        Binary64.isFinite
    else none

/-! ## Dates and times -/

/-- Reads exactly `width` digits. -/
def readDigits (width : Nat) (cs : List Char) : Option (Nat × List Char) :=
  let digits := cs.take width
  if digits.length = width && digits.all isDigit then some (digitsValue digits, cs.drop width)
  else none

/-- Reads a character that must be there. -/
def expect (c : Char) : List Char → Option (Unit × List Char)
  | d :: rest => if c = d then some ((), rest) else none
  | [] => none

/-- Reads a date and writes it. -/
def readDate (cs : List Char) : Option (List Char × List Char) := do
  let (year, cs) ← readDigits 4 cs
  let (_, cs) ← expect '-' cs
  let (month, cs) ← readDigits 2 cs
  let (_, cs) ← expect '-' cs
  let (day, cs) ← readDigits 2 cs
  if 1 ≤ month ∧ month ≤ 12 ∧ 1 ≤ day ∧ day ≤ daysInMonth year month then
    some (paddedNat 4 year ++ '-' :: paddedNat 2 month ++ '-' :: paddedNat 2 day, cs)
  else none

/-- A fraction of a second to nine places, without the zeros at its end but one. -/
def fractionChars (digits : List Char) : List Char :=
  let shown := ((digits.take 9).reverse.dropWhile (· = '0')).reverse
  '.' :: if shown = [] then ['0'] else shown

/-- Reads the fraction of a second and writes it; there may be none. -/
def readFraction : List Char → Option (List Char × List Char)
  | '.' :: cs =>
    let (digits, cs) := spanDigits cs
    if digits = [] then none else some (fractionChars digits, cs)
  | cs => some ([], cs)

/-- Reads the seconds of a time of day and writes them; there may be none. -/
def readSeconds : List Char → Option (List Char × List Char)
  | ':' :: cs => do
    let (second, cs) ← readDigits 2 cs
    let (fraction, cs) ← readFraction cs
    if second ≤ 60 then some (':' :: paddedNat 2 second ++ fraction, cs) else none
  | cs => some ([], cs)

/-- Reads a time of day and writes it. -/
def readTime (cs : List Char) : Option (List Char × List Char) := do
  let (hour, cs) ← readDigits 2 cs
  let (_, cs) ← expect ':' cs
  let (minute, cs) ← readDigits 2 cs
  let (seconds, cs) ← readSeconds cs
  if hour < 24 ∧ minute < 60 then
    some (paddedNat 2 hour ++ ':' :: paddedNat 2 minute ++ seconds, cs)
  else none

/-- Reads an offset from universal time and writes it; there may be none. -/
def readOffset (cs : List Char) : Option (List Char × List Char) :=
  let numeric (sign : Char) (cs : List Char) : Option (List Char × List Char) := do
    let (hour, cs) ← readDigits 2 cs
    let (_, cs) ← expect ':' cs
    let (minute, cs) ← readDigits 2 cs
    if hour < 24 ∧ minute < 60 then
      let sign := if hour = 0 ∧ minute = 0 then '+' else sign
      some (sign :: paddedNat 2 hour ++ ':' :: paddedNat 2 minute, cs)
    else none
  match cs with
  | 'Z' :: cs => some (['Z'], cs)
  | 'z' :: cs => some (['Z'], cs)
  | '+' :: cs => numeric '+' cs
  | '-' :: cs => numeric '-' cs
  | cs => some ([], cs)

/-- The text of a date, a time or both. -/
def moment? (word : List Char) : Option (List Char) :=
  let whole : Option (List Char × List Char) → Option (List Char)
    | some (text, []) => some text
    | _ => none
  match readDate word with
  | none => whole (readTime word)
  | some (date, []) => some date
  | some (date, mark :: rest) =>
    if mark = 'T' ∨ mark = 't' ∨ mark = ' ' then
      whole <| do
        let (time, rest) ← readTime rest
        let (offset, rest) ← readOffset rest
        some (date ++ 'T' :: time ++ offset, rest)
    else none

/-! ## Words -/

/-- A character of a number, a truth value, a date or a time. -/
def isWordChar (c : Char) : Bool :=
  c.isAlphanum || c == '+' || c == '-' || c == '_' || c == '.' || c == ':'

/-- The characters of a word.  A date may be followed by a space and a time. -/
def takeWord (cs : List Char) : List Char × List Char :=
  let (word, rest) := cs.span isWordChar
  match readDate word, rest with
  | some (_, []), ' ' :: c :: more =>
    if isDigit c then
      let (time, rest) := (c :: more).span isWordChar
      (word ++ ' ' :: time, rest)
    else (word, rest)
  | _, _ => (word, rest)

/-- Reads a value that is no string and has no parts. -/
def readWord (cs : List Char) : Option (Json × List Char) :=
  let (word, rest) := takeWord cs
  let value : Option Json :=
    if word = "true".toList then some (.bool true)
    else if word = "false".toList then some (.bool false)
    else match integer? word with
      | some n => some (.int n)
      | none =>
        match real? word with
        | some x => some (.real x)
        | none => (moment? word).map fun text => .text (String.ofList text)
  value.map (·, rest)

end Toml

end Gatehouse
