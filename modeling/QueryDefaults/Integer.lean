/-!
# Integers in range

Queries compute with 64-bit integers.
-/

set_option autoImplicit false

namespace QueryDefaults

/-- The 64-bit integer of the given value, if there is one. -/
def int64OfInt? (n : Int) : Option Int64 :=
  if Int64.minValue.toInt ≤ n ∧ n ≤ Int64.maxValue.toInt then some (.ofInt n) else none

end QueryDefaults
