/-!
# Integers of a fixed width

The ranges of integers of 32 and of 64 bits with a sign.
-/

namespace Membrane.Number

/-- Whether an integer has 32 bits with its sign. -/
def fitsInt (n : Int) : Bool :=
  -0x80000000 ≤ n && n < 0x80000000

/-- Whether an integer has 64 bits with its sign. -/
def fitsLong (n : Int) : Bool :=
  -0x8000000000000000 ≤ n && n < 0x8000000000000000

/-- The range of 32 bits. -/
theorem fitsInt_iff {n : Int} :
    fitsInt n = true ↔ -0x80000000 ≤ n ∧ n < 0x80000000 := by
  simp [fitsInt]

/-- The range of 64 bits. -/
theorem fitsLong_iff {n : Int} :
    fitsLong n = true ↔ -0x8000000000000000 ≤ n ∧ n < 0x8000000000000000 := by
  simp [fitsLong]

end Membrane.Number
