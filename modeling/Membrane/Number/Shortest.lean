import Membrane.Number.Binary64
import Membrane.Text.Numeral

/-!
# Shortest decimal text

A finite number is written with the fewest significant digits that read back
as the number, the nearest such digits where there are several, and the larger
where two are equally near. The text is positional whatever the size, and has a
point only where there are digits behind it.
-/

namespace Membrane.Number

namespace Binary64

/-- Numbers that read back as a given one: the open or closed interval between
the midpoints to its two neighbours. All bounds are in quarters of a unit. -/
structure Interval where
  low : Nat
  high : Nat
  closed : Bool

/-- The numbers that round to a positive finite one. The gap below a power of
two is half the gap above it, and ties go to the even significand. -/
def roundingInterval (x : Binary64) : Interval :=
  let step := twoPow x.shift
  let below := if x.fraction = 0 ∧ 1 < x.exponentField then step else 2 * step
  ⟨4 * x.magnitude - below, 4 * x.magnitude + 2 * step, x.significand % 2 = 0⟩

/-- The position of the decimal point before the first significant digit: the
`p` with `10 ^ (p - 1) ≤ num / den < 10 ^ p`, for a positive quotient. -/
def decimalPoint (num den : Nat) : Int :=
  if den ≤ num then (Text.writeNatural (num / den)).length
  else 1 - ((Text.writeNatural ((den - 1) / num)).length : Int)

/-- A whole number of quarters of units for `digits * 10 ^ power`, as a
quotient. -/
def gridPoint (digits : Nat) (power : Int) : Nat × Nat :=
  if 0 ≤ power then (4 * unitsPerOne * digits * tenPow power.toNat, 1)
  else (4 * unitsPerOne * digits, tenPow (-power).toNat)

/-- Whether `digits * 10 ^ power` lies in an interval. -/
def Interval.contains (range : Interval) (digits : Nat) (power : Int) : Bool :=
  let (num, den) := gridPoint digits power
  if range.closed then range.low * den ≤ num && num ≤ range.high * den
  else range.low * den < num && num < range.high * den

/-- The multiple of `10 ^ power` that reads back as a positive finite number
and is nearest to it, the larger of two equally near. -/
def onGrid? (x : Binary64) (power : Int) : Option Nat :=
  let range := x.roundingInterval
  let scale := if 0 ≤ power then tenPow power.toNat else 1
  let num := if 0 ≤ power then x.magnitude else x.magnitude * tenPow (-power).toNat
  let den := unitsPerOne * scale
  let below := num / den
  let rest := 2 * (num % den)
  match range.contains below power, range.contains (below + 1) power with
  | true, true => some (if rest < den then below else below + 1)
  | true, false => some below
  | false, true => some (below + 1)
  | false, false => none

/-- The first grid with a hit, from `count` digits on; seventeen digits always
suffice. -/
def shortestFrom (x : Binary64) (point : Int) : Nat → Nat → Nat × Int
  | 0, count => (x.magnitude / unitsPerOne, point - count)
  | fuel + 1, count =>
    match onGrid? x (point - count) with
    | some digits => (digits, point - count)
    | none => shortestFrom x point fuel (count + 1)

/-- The digits and the power of ten of the shortest decimal that reads back as
a positive finite number. -/
def shortest (x : Binary64) : Nat × Int :=
  shortestFrom x (decimalPoint x.magnitude unitsPerOne) 17 1

end Binary64

/-- Digits without the zeros at their end. -/
def withoutTrailingZeros (digits : List Char) : List Char :=
  (digits.reverse.dropWhile (· == '0')).reverse

/-- The positional text of `digits * 10 ^ power`. -/
def positional (digits : Nat) (power : Int) : List Char :=
  let written := Text.writeNatural digits
  if 0 ≤ power then written ++ List.replicate power.toNat '0'
  else
    let places := (-power).toNat
    let padded := List.replicate (places + 1 - written.length) '0' ++ written
    let split := padded.length - places
    match withoutTrailingZeros (padded.drop split) with
    | [] => padded.take split
    | fraction => padded.take split ++ '.' :: fraction

/-- The text of a number: the words `NaN` and `inf`, a minus sign where the
sign bit is set, and the shortest positional digits. -/
def Binary64.toText (x : Binary64) : List Char :=
  let sign := if x.negative then ['-'] else []
  if x.isNaN then ['N', 'a', 'N']
  else if !x.isFinite then sign ++ ['i', 'n', 'f']
  else if x.isZero then sign ++ ['0']
  else
    let (digits, power) := x.shortest
    sign ++ positional digits power

end Membrane.Number
