/-!
# Truth values in words
-/

set_option autoImplicit false

namespace Gatehouse

/-- A truth value as a word. -/
def truthText (b : Bool) : String := if b then "true" else "false"

end Gatehouse
