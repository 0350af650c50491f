import Gatehouse.Text.Alphanumeric.Table
import Gatehouse.Text.Run

/-!
# Letters and numbers

The characters of any script that may stand in the name of a variable after a dollar sign.
-/

set_option autoImplicit false

namespace Gatehouse

/-- The character is a letter, a mark that belongs to letters, or a number. -/
def isAlphanumeric (c : Char) : Bool := inRuns alphanumericRuns c

end Gatehouse
