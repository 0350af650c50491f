/-!
# Powers of two and ten
-/

set_option autoImplicit false

namespace Gatehouse

/-- Two to a power. -/
def powerOfTwo (n : Nat) : Nat := Nat.pow 2 n

/-- Ten to a power. -/
def powerOfTen (n : Nat) : Nat := Nat.pow 10 n

end Gatehouse
