import Mathlib.Algebra.Order.Round
import Mathlib.Data.Rat.Floor
import Mathlib.Tactic.Linarith
import Mathlib.Tactic.Ring
import Membrane.Proofs.Numerals

/-!
# Doubles that become integers

The exact value of a finite number is a rational, and an integer is what it rounds
to if no integer is nearer, the even one of two that are equally near. Rounding a
number is rounding that value, in exact arithmetic, and only the rounded value has
to fit the requested width.
-/

namespace Membrane

namespace Number

/-! ## The nearest integer -/

/-- An integer is the nearest one to a rational, and it is even if another one is
as near. -/
def RoundsTo (q : ℚ) (n : ℤ) : Prop :=
  (∀ k : ℤ, |q - n| ≤ |q - k|) ∧ ∀ k : ℤ, k ≠ n → |q - k| = |q - n| → Even n

/-- Two integers are at least one apart, so that another integer is at least as far
away as is left of one. -/
theorem one_sub_abs_le {q : ℚ} {n k : ℤ} (other : k ≠ n) : 1 - |q - n| ≤ |q - k| := by
  have apart : (1 : ℚ) ≤ |(k : ℚ) - n| := by
    rw [← Int.cast_sub, ← Int.cast_abs]
    exact_mod_cast Int.one_le_abs (sub_ne_zero.mpr other)
  have triangle : |(k : ℚ) - n| ≤ |q - k| + |q - n| := by
    rw [abs_sub_comm q k]
    exact abs_sub_le (k : ℚ) q n
  linarith

theorem roundsTo_of_lt {q : ℚ} {n : ℤ} (near : 2 * |q - n| < 1) : RoundsTo q n := by
  have farther (k : ℤ) (other : k ≠ n) : |q - n| < |q - k| := by
    have apart := one_sub_abs_le (q := q) other
    linarith
  constructor
  · intro k
    by_cases same : k = n
    · rw [same]
    · exact (farther k same).le
  · intro k other as_near
    exact absurd as_near (farther k other).ne'

theorem roundsTo_of_eq {q : ℚ} {n : ℤ} (halfway : 2 * |q - n| = 1) (even : Even n) :
    RoundsTo q n := by
  refine ⟨fun k => ?_, fun _ _ _ => even⟩
  by_cases same : k = n
  · rw [same]
  · have apart := one_sub_abs_le (q := q) same
    linarith

/-- A rational rounds to one integer only. -/
theorem RoundsTo.unique {q : ℚ} {m n : ℤ} (first : RoundsTo q m) (second : RoundsTo q n) :
    m = n := by
  by_contra other
  have as_near : |q - m| = |q - n| := le_antisymm (first.1 n) (second.1 m)
  obtain ⟨i, rfl⟩ := first.2 n (Ne.symm other) as_near.symm
  obtain ⟨j, rfl⟩ := second.2 _ other as_near
  -- Both are within a half of the rational, so they are next to each other.
  have half : |q - ((i + i : ℤ) : ℚ)| ≤ 1 / 2 := (first.1 (round q)).trans (abs_sub_round q)
  have close : |(((i + i : ℤ) : ℚ)) - ((j + j : ℤ) : ℚ)| ≤ 1 := by
    have triangle := abs_sub_le ((i + i : ℤ) : ℚ) q ((j + j : ℤ) : ℚ)
    rw [abs_sub_comm ((i + i : ℤ) : ℚ) q] at triangle
    linarith
  rw [← Int.cast_sub, ← Int.cast_abs] at close
  have close : |(i + i) - (j + j)| ≤ 1 := by exact_mod_cast close
  rw [abs_le] at close
  omega

theorem RoundsTo.neg {q : ℚ} {n : ℤ} (rounds : RoundsTo q n) : RoundsTo (-q) (-n) := by
  have mirrored (k : ℤ) : |-q - k| = |q - (-k : ℤ)| := by
    rw [← abs_neg (-q - (k : ℚ))]
    push_cast
    ring_nf
  have mirrored' : |-q - (-n : ℤ)| = |q - n| := by rw [mirrored, neg_neg]
  constructor
  · intro k
    rw [mirrored', mirrored]
    exact rounds.1 (-k)
  · intro k other as_near
    rw [mirrored', mirrored] at as_near
    exact (rounds.2 (-k) (by omega) as_near).neg

/-! ## Rounding a quotient -/

/-- A quotient is its whole part and the rest over the divisor. -/
theorem div_eq_whole_add_rest (num : Nat) {den : Nat} (positive : 0 < den) :
    (num : ℚ) / den = (num / den : Nat) + ((num % den : Nat) : ℚ) / den := by
  have scale : (den : ℚ) ≠ 0 := by exact_mod_cast positive.ne'
  have parts : (num : ℚ) = den * (num / den : Nat) + (num % den : Nat) := by
    exact_mod_cast (Nat.div_add_mod num den).symm
  rw [div_eq_iff scale, add_mul, div_mul_cancel₀ _ scale, mul_comm]
  exact parts

/-- The rounded quotient of two natural numbers is the integer nearest to the exact
one. -/
theorem roundsTo_roundDiv (num : Nat) {den : Nat} (positive : 0 < den) :
    RoundsTo ((num : ℚ) / den) (roundDiv num den : Nat) := by
  have scale : (0 : ℚ) < den := by exact_mod_cast positive
  have rest : ((num % den : Nat) : ℚ) / den < 1 := by
    rw [div_lt_one scale]
    exact_mod_cast Nat.mod_lt num positive
  -- How far away the two candidates are.
  have below : |(num : ℚ) / den - ((num / den : Nat) : ℤ)| = ((num % den : Nat) : ℚ) / den := by
    rw [div_eq_whole_add_rest num positive, Int.cast_natCast, add_sub_cancel_left, abs_of_nonneg]
    positivity
  have above : |(num : ℚ) / den - ((num / den + 1 : Nat) : ℤ)| =
      1 - ((num % den : Nat) : ℚ) / den := by
    rw [div_eq_whole_add_rest num positive, Int.cast_natCast, Nat.cast_add_one, abs_sub_comm,
      abs_of_nonneg (by linarith)]
    ring
  have double : 2 * (((num % den : Nat) : ℚ) / den) = ((2 * (num % den) : Nat) : ℚ) / den := by
    push_cast
    ring
  simp only [roundDiv]
  split
  case isTrue less =>
    apply roundsTo_of_lt
    rw [below, double, div_lt_one scale]
    exact_mod_cast less
  case isFalse notLess =>
    split
    case isTrue greater =>
      have greater : 1 < 2 * (((num % den : Nat) : ℚ) / den) := by
        rw [double, one_lt_div scale]
        exact_mod_cast greater
      apply roundsTo_of_lt
      rw [above]
      linarith
    case isFalse notGreater =>
      have halfway : 2 * (((num % den : Nat) : ℚ) / den) = 1 := by
        rw [double, div_eq_one_iff_eq scale.ne']
        exact_mod_cast le_antisymm (not_lt.mp notGreater) (not_lt.mp notLess)
      split
      case isTrue even =>
        apply roundsTo_of_eq (by rw [below, halfway])
        exact_mod_cast Nat.even_iff.mpr even
      case isFalse odd =>
        apply roundsTo_of_eq (by rw [above]; linarith)
        have even : Even (num / den + 1) := Nat.even_iff.mpr (by omega)
        exact_mod_cast even

/-! ## The exact value of a number -/

namespace Binary64

/-- The rational that the bits of a finite number stand for: by the sign bit, the
eleven bits of the exponent and the fifty-two of the fraction. -/
def toRat (x : Binary64) : ℚ :=
  let exponent : Nat := x.bits.toNat / 2 ^ 52 % 2 ^ 11
  let fraction : ℚ := (x.bits.toNat % 2 ^ 52 : Nat)
  (if 2 ^ 63 ≤ x.bits.toNat then -1 else 1) *
    if exponent = 0 then fraction * 2 ^ (-1074 : ℤ)
    else (2 ^ 52 + fraction) * 2 ^ ((exponent : ℤ) - 1075)

theorem cast_twoPow (k : Nat) : ((twoPow k : Nat) : ℚ) = 2 ^ k :=
  Nat.cast_pow 2 k

/-- The value of a number is its magnitude in units of the least positive one, with
its sign. -/
theorem toRat_eq (x : Binary64) :
    x.toRat = (if x.negative then -1 else 1) * ((x.magnitude : ℚ) / unitsPerOne) := by
  have sign : (x.negative = true) = (2 ^ 63 ≤ x.bits.toNat) := decide_eq_true_eq
  have scaled (significand shift : Nat) : ((significand * twoPow shift : Nat) : ℚ) / unitsPerOne =
      significand * 2 ^ ((shift : ℤ) - (1074 : Nat)) := by
    rw [unitsPerOne, Nat.cast_mul, cast_twoPow, cast_twoPow, zpow_sub₀ two_ne_zero, zpow_natCast,
      zpow_natCast, mul_div_assoc]
  have exponent : x.exponentField = x.bits.toNat / 2 ^ 52 % 2 ^ 11 := rfl
  have fraction : x.fraction = x.bits.toNat % 2 ^ 52 := rfl
  rw [toRat, magnitude, scaled, significand, shift, ← exponent, ← fraction]
  simp only [sign]
  congr 1
  by_cases subnormal : x.exponentField = 0
  · rw [if_pos subnormal, if_pos subnormal, subnormal]
    rfl
  · have least : ((x.exponentField - 1 : Nat) : ℤ) - (1074 : Nat) = x.exponentField - 1075 := by
      omega
    rw [if_neg subnormal, if_neg subnormal, least, Nat.cast_add, cast_twoPow]

/-- A number is rounded where it is finite, and to the integer nearest to its
value. -/
theorem round?_eq_some_iff {x : Binary64} {n : ℤ} :
    x.round? = some n ↔ x.isFinite = true ∧ RoundsTo x.toRat n := by
  have nearest : RoundsTo ((x.magnitude : ℚ) / unitsPerOne) (roundDiv x.magnitude unitsPerOne) :=
    roundsTo_roundDiv x.magnitude (twoPow_pos 1074)
  have rounds : RoundsTo x.toRat
      (if x.negative then -(roundDiv x.magnitude unitsPerOne : ℤ)
        else roundDiv x.magnitude unitsPerOne) := by
    rw [toRat_eq]
    cases x.negative with
    | true => simpa only [if_true, neg_one_mul] using nearest.neg
    | false => simpa only [Bool.false_eq_true, if_false, one_mul] using nearest
  rw [round?]
  simp only [Option.ite_none_right_eq_some, Option.some.injEq]
  refine and_congr_right fun _ => ⟨?_, ?_⟩
  · rintro rfl
    exact rounds
  · exact fun other => rounds.unique other

theorem round?_eq_none_iff {x : Binary64} : x.round? = none ↔ x.isFinite = false := by
  rw [round?, ite_eq_right_iff, ← Bool.not_eq_true]
  exact imp_congr_right fun _ => iff_false_intro (Option.some_ne_none _)

end Binary64

end Number

/-! ## Conversion of doubles to integers -/

namespace Value

open Number

/-- A double that rounds to an integer becomes it, if it fits 64 bits. -/
theorem changeType_long_of_round? {x : Binary64} {n : ℤ} (rounded : x.round? = some n) :
    (double x).changeType .long =
      if -2 ^ 63 ≤ n ∧ n < 2 ^ 63 then .ok (.long (.ofInt n))
      else .error (.overflow ValueType.long.display) := by
  have fits : fitsLong n = true ↔ -2 ^ 63 ≤ n ∧ n < 2 ^ 63 := fitsLong_iff
  rw [changeType_long_eq _ (by simp), toLong]
  simp only [rounded, fits]
  split <;> rfl

/-- A double that rounds to an integer becomes it, if it fits 32 bits; that it went
through 64 bits is not to be seen. -/
theorem changeType_int_of_round? {x : Binary64} {n : ℤ} (rounded : x.round? = some n) :
    (double x).changeType .int =
      if -2 ^ 31 ≤ n ∧ n < 2 ^ 31 then .ok (.int (.ofInt n))
      else .error (.overflow ValueType.int.display) := by
  have fits : fitsLong n = true ↔ -2 ^ 63 ≤ n ∧ n < 2 ^ 63 := fitsLong_iff
  rw [changeType_int_eq _ (by simp), toLong]
  simp only [rounded, fits]
  by_cases wide : -2 ^ 63 ≤ n ∧ n < 2 ^ 63
  · have value : (Int64.ofInt n).toInt = n := Int64.toInt_ofInt_of_le wide.1 wide.2
    have narrowed : fitsInt n = true ↔ -2 ^ 31 ≤ n ∧ n < 2 ^ 31 := fitsInt_iff
    rw [if_pos wide]
    show int <$> narrow (.ofInt n) = _
    simp only [narrow, value, narrowed]
    split <;> rfl
  · rw [if_neg wide, if_neg (by omega)]
    rfl

/-- A double that is not finite overflows. -/
theorem changeType_of_not_isFinite {x : Binary64} (infinite : x.isFinite = false) :
    (double x).changeType .int = .error (.overflow ValueType.int.display) ∧
      (double x).changeType .long = .error (.overflow ValueType.long.display) := by
  have unrounded : x.round? = none := Binary64.round?_eq_none_iff.mpr infinite
  rw [changeType_int_eq _ (by simp), changeType_long_eq _ (by simp), toLong, toLong]
  simp only [unrounded]
  exact ⟨rfl, rfl⟩

end Value

open Number in
/-- A double becomes the integer that is nearest to its exact value, the even one of
two that are equally near. Only that integer has to be in the range of the requested
width; if it is not, or if the double is not finite, the conversion overflows. -/
theorem doubles_round_half_to_even (x : Binary64) :
    (x.isFinite = false ∧
      (Value.double x).changeType .long = .error (.overflow "Int64") ∧
      (Value.double x).changeType .int = .error (.overflow "Int32")) ∨
    (x.isFinite = true ∧ ∃ n, (∀ m, RoundsTo x.toRat m ↔ m = n) ∧
      (∀ k : Int64, (Value.double x).changeType .long = .ok (.long k) ↔ k.toInt = n) ∧
      ((Value.double x).changeType .long = .error (.overflow "Int64") ↔
        ¬ (-2 ^ 63 ≤ n ∧ n < 2 ^ 63)) ∧
      (∀ k : Int32, (Value.double x).changeType .int = .ok (.int k) ↔ k.toInt = n) ∧
      ((Value.double x).changeType .int = .error (.overflow "Int32") ↔
        ¬ (-2 ^ 31 ≤ n ∧ n < 2 ^ 31))) := by
  cases finite : x.isFinite with
  | false =>
    obtain ⟨int, long⟩ := Value.changeType_of_not_isFinite finite
    exact Or.inl ⟨rfl, long, int⟩
  | true =>
    obtain ⟨n, rounded⟩ : ∃ n, x.round? = some n := ⟨_, if_pos finite⟩
    have rounds := (Binary64.round?_eq_some_iff.mp rounded).2
    refine Or.inr ⟨rfl, n, fun m => ⟨fun other => other.unique rounds, ?_⟩, ?_⟩
    · rintro rfl
      exact rounds
    rw [Value.changeType_long_of_round? rounded, Value.changeType_int_of_round? rounded]
    refine ⟨fun k => ?_, ?_, fun k => ?_, ?_⟩
    · rw [checked_eq_ok_iff, Value.long.injEq, ofInt64_iff]
    · rw [checked_eq_error_iff, and_iff_left (by rfl)]
    · rw [checked_eq_ok_iff, Value.int.injEq, ofInt32_iff]
    · rw [checked_eq_error_iff, and_iff_left (by rfl)]

end Membrane
