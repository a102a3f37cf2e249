/-!
# Powers of two and of ten

The powers of the two bases that numbers have here: doubles are spaced by
powers of two, and their texts by powers of ten.
-/

namespace Membrane.Number

/-- The power of two with a given exponent. -/
def twoPow (k : Nat) : Nat :=
  Nat.pow 2 k

/-- The power of ten with a given exponent. -/
def tenPow (k : Nat) : Nat :=
  Nat.pow 10 k

/-- No power of two is zero. -/
theorem twoPow_pos (k : Nat) : 0 < twoPow k :=
  Nat.pow_pos (by decide)

/-- Exponents add up where powers of two are multiplied. -/
theorem twoPow_add (j k : Nat) : twoPow (j + k) = twoPow j * twoPow k :=
  Nat.pow_add 2 j k

end Membrane.Number
