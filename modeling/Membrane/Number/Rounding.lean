/-!
# Rounding a quotient

The integer nearest to a quotient of natural numbers; a quotient halfway
between two integers goes to the even one.
-/

namespace Membrane.Number

/-- The integer nearest to `num / den`, the even one of two equally near. -/
def roundDiv (num den : Nat) : Nat :=
  let floor := num / den
  let rest := 2 * (num % den)
  if rest < den then floor
  else if den < rest then floor + 1
  else if floor % 2 = 0 then floor
  else floor + 1

end Membrane.Number
