import Membrane.Number.Power
import Membrane.Number.Rounding

/-!
# Double precision numbers

A number is its 64 bits. A finite number is read exactly as a whole number of
units of 2 ^ -1074, the least positive one, so that rounding and comparison are
integer arithmetic and no hardware operation is involved.
-/

namespace Membrane.Number

/-- A double precision number, given by its bits. -/
structure Binary64 where
  bits : UInt64
  deriving DecidableEq

namespace Binary64

/-- How many units of 2 ^ -1074 make one. -/
def unitsPerOne : Nat :=
  twoPow 1074

/-- The bits of positive infinity; those of every finite magnitude are below. -/
def infinityBits : Nat :=
  2047 * twoPow 52

/-- The number that is not a number and that arithmetic produces. -/
def nan : Binary64 :=
  ⟨0x7FF8000000000000⟩

/-- Positive zero. -/
def zero : Binary64 :=
  ⟨0⟩

/-- The sign bit, also of zeros and of numbers that are not numbers. -/
def negative (x : Binary64) : Bool :=
  twoPow 63 ≤ x.bits.toNat

/-- The eleven bits of the exponent. -/
def exponentField (x : Binary64) : Nat :=
  x.bits.toNat / twoPow 52 % twoPow 11

/-- The fifty-two bits after the leading one. -/
def fraction (x : Binary64) : Nat :=
  x.bits.toNat % twoPow 52

/-- Neither infinite nor a non-number. -/
def isFinite (x : Binary64) : Bool :=
  x.exponentField != 2047

/-- One of the many codes that denote no number. -/
def isNaN (x : Binary64) : Bool :=
  x.exponentField == 2047 && x.fraction != 0

/-- Either of the two zeros. -/
def isZero (x : Binary64) : Bool :=
  x.exponentField == 0 && x.fraction == 0

/-- The integer significand; the leading one is not stored. -/
def significand (x : Binary64) : Nat :=
  if x.exponentField = 0 then x.fraction else twoPow 52 + x.fraction

/-- The power of two, in units, of the last place of the significand. -/
def shift (x : Binary64) : Nat :=
  x.exponentField - 1

/-- The absolute value of a finite number in units of 2 ^ -1074. -/
def magnitude (x : Binary64) : Nat :=
  x.significand * twoPow x.shift

/-- The number with a given sign and the given bits below the sign. -/
def ofMagnitudeBits (negative : Bool) (bits : Nat) : Binary64 :=
  ⟨UInt64.ofNat (if negative then twoPow 63 + bits else bits)⟩

/-- Infinity of either sign. -/
def infinite (negative : Bool) : Binary64 :=
  ofMagnitudeBits negative infinityBits

/-- The bits of the magnitude nearest to `num / den` units. Below 2 ^ 53 every
whole number of units is a magnitude; above, the last place has as many units
as leave fifty-three digits. A rounding that carries moves into the next
exponent by itself, since exponents follow the fraction in the code. -/
def nearestBits (num den : Nat) : Nat :=
  let whole := num / den
  let shift := if whole < twoPow 53 then 0 else whole.log2 - 52
  min (shift * twoPow 52 + roundDiv num (den * twoPow shift)) infinityBits

/-- The number nearest to `num / den` with the given sign, the one with an even
significand of two equally near, infinite beyond the largest. -/
def ofRatio (negative : Bool) (num den : Nat) : Binary64 :=
  ofMagnitudeBits negative (nearestBits (num * unitsPerOne) den)

/-- The number nearest to an integer. -/
def ofInt (n : Int) : Binary64 :=
  ofRatio (n < 0) n.natAbs 1

/-- The integer nearest to a finite number, the even one of two equally near. -/
def round? (x : Binary64) : Option Int :=
  if x.isFinite then
    let rounded := roundDiv x.magnitude unitsPerOne
    some (if x.negative then -(rounded : Int) else rounded)
  else
    none

/-- The integer that a number is, where it is one. -/
def toInt? (x : Binary64) : Option Int :=
  if x.isFinite && x.magnitude % unitsPerOne == 0 then
    let whole := x.magnitude / unitsPerOne
    some (if x.negative then -(whole : Int) else whole)
  else
    none

/-- Numeric equality: the two zeros are equal, and a non-number equals
nothing. -/
def same (x y : Binary64) : Bool :=
  !x.isNaN && !y.isNaN && (x.bits == y.bits || (x.isZero && y.isZero))

end Binary64

end Membrane.Number
