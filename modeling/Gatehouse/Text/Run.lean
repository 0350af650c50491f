/-!
# Runs of code points

The tables of the Unicode character database hold the code points with a property as runs, each
given by its first and its last one.
-/

set_option autoImplicit false

namespace Gatehouse

/-- The code point of a character lies in one of the runs. -/
def inRuns (runs : Array (Nat × Nat)) (c : Char) : Bool :=
  runs.any fun r => r.1 ≤ c.toNat && c.toNat ≤ r.2

end Gatehouse
