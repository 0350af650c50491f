import Gatehouse.Text.Lowercase.Table
import Gatehouse.Text.Run

/-!
# Lower case

The full lower-case mapping of Unicode, which the words of a command line, of a settings file and
of the environment go through before they are compared.

Three things keep it from being a map on characters.  The capital I with a dot becomes two
characters.  A capital sigma becomes the final form at the end of a word: when a letter precedes
it and none follows, looking past marks and apostrophes.  Everything else follows the runs of
`lowercaseRuns`.
-/

set_option autoImplicit false

namespace Gatehouse

/-- The lower-case form of a single character, if it has one of its own. -/
def lowerChar (c : Char) : Char :=
  let n := c.toNat
  match lowercaseRuns.find? fun (first, last, step, _, _) =>
      first ≤ n && n ≤ last && (n - first) % step == 0 with
  | some (_, _, _, true, distance) => Char.ofNat (n + distance)
  | some (_, _, _, false, distance) => Char.ofNat (n - distance)
  | none => c

/-- The first character that is not looked past is a letter with case. -/
def meetsLetter (cs : List Char) : Bool :=
  match cs.dropWhile (inRuns skippedRuns) with
  | [] => false
  | c :: _ => inRuns casedRuns c

/-- Lowers the characters of a text; `before` holds those already passed, last one first. -/
def lowerFrom (before : List Char) : List Char → List Char
  | [] => []
  | c :: cs =>
    let lowered :=
      if c = 'Σ' then
        if meetsLetter before && !meetsLetter cs then ['ς'] else ['σ']
      else if c = 'İ' then ['i', Char.ofNat 0x307]
      else [lowerChar c]
    lowered ++ lowerFrom (c :: before) cs

/-- The text in lower case. -/
def lowercase (s : String) : String := String.ofList (lowerFrom [] s.toList)

end Gatehouse
