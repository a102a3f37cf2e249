import Membrane.Proofs.Rounding

/-!
# Integers that are doubles

An integer becomes the double nearest to it, which has fifty-three binary digits. Reading
that double as an integer again gives the integer back exactly if it has no more than those
before the zeros at its end (`round?_ofInt_eq_self_iff`).
-/

namespace Membrane.Number

/-! ## Rounding a quotient -/

/-- Rounding goes down to the whole part or up to the next integer. -/
theorem roundDiv_le (num den : Nat) : roundDiv num den ≤ num / den + 1 := by
  simp only [roundDiv]
  split_ifs <;> omega

theorem le_roundDiv (num den : Nat) : num / den ≤ roundDiv num den := by
  simp only [roundDiv]
  split_ifs <;> omega

/-- A multiple of the divisor is divided exactly. -/
theorem roundDiv_mul (k : Nat) {den : Nat} (positive : 0 < den) : roundDiv (k * den) den = k := by
  simp [roundDiv, positive]

/-- A factor of both does not change a quotient. -/
theorem roundDiv_mul_mul (num den : Nat) {factor : Nat} (positive : 0 < factor) :
    roundDiv (num * factor) (den * factor) = roundDiv num den := by
  have less : 2 * (num % den * factor) < den * factor ↔ 2 * (num % den) < den := by
    rw [← Nat.mul_assoc]
    exact Nat.mul_lt_mul_right positive
  have greater : den * factor < 2 * (num % den * factor) ↔ den < 2 * (num % den) := by
    rw [← Nat.mul_assoc]
    exact Nat.mul_lt_mul_right positive
  simp only [roundDiv, Nat.mul_div_mul_right _ _ positive, Nat.mul_mod_mul_right, less, greater]

theorem twoPow_eq (k : Nat) : twoPow k = 2 ^ k :=
  rfl

/-! ## The first digits of an integer -/

/-- The first fifty-three binary digits of a positive integer, rounded to the nearest; with
zeros behind it, where it has fewer. -/
def leadingDigits (a : Nat) : Nat :=
  roundDiv (a * 2 ^ 52) (2 ^ a.log2)

/-- The integer that its first fifty-three digits stand for. -/
def keptInteger (a : Nat) : Nat :=
  roundDiv (leadingDigits a * 2 ^ a.log2) (2 ^ 52)

/-- An integer with at most fifty-three binary digits before the zeros at its end. -/
def FitsSignificand (n : Int) : Prop :=
  ∃ (m : Int) (k : Nat), m.natAbs < 2 ^ 53 ∧ n = m * 2 ^ k

/-- An integer of few digits fits a significand as it is. -/
theorem fitsSignificand_of_natAbs_lt {n : Int} (short : n.natAbs < 2 ^ 53) : FitsSignificand n :=
  ⟨n, 0, short, by simp⟩

theorem log2_natAbs_lt {n : Int} (low : -2 ^ 63 ≤ n) (high : n < 2 ^ 63) :
    n.natAbs.log2 < 900 := by
  by_cases zero : n = 0
  · subst zero
    decide
  · have long : n.natAbs.log2 < 64 := by
      rw [Nat.log2_lt (by omega)]
      omega
    omega

section Digits

variable {a : Nat}

/-- The first digits start with a one; rounding may carry into a fifty-fourth one. -/
theorem le_leadingDigits (positive : a ≠ 0) : 2 ^ 52 ≤ leadingDigits a := by
  refine le_trans ?_ (le_roundDiv _ _)
  rw [Nat.le_div_iff_mul_le (by positivity), Nat.mul_comm]
  exact Nat.mul_le_mul_right _ (Nat.log2_self_le positive)

theorem leadingDigits_le (a : Nat) : leadingDigits a ≤ 2 ^ 53 := by
  have below : a * 2 ^ 52 / 2 ^ a.log2 < 2 ^ 53 := by
    rw [Nat.div_lt_iff_lt_mul (by positivity)]
    have first : a < 2 ^ (a.log2 + 1) := Nat.lt_log2_self
    rw [pow_succ] at first
    omega
  have rounded := roundDiv_le (a * 2 ^ 52) (2 ^ a.log2)
  rw [leadingDigits]
  omega

/-- Rounding the first digits loses nothing exactly if they are all digits. -/
theorem keptInteger_eq_self_iff : keptInteger a = a ↔ 2 ^ a.log2 ∣ a * 2 ^ 52 := by
  constructor
  · intro kept
    by_cases few : a.log2 ≤ 52
    · exact (pow_dvd_pow 2 few).mul_left a
    -- There are digits behind the first ones, and what is kept has zeros there.
    · have split : 2 ^ a.log2 = 2 ^ (a.log2 - 52) * 2 ^ 52 := by
        rw [← pow_add]
        congr 1
        omega
      rw [keptInteger, split, ← Nat.mul_assoc, roundDiv_mul _ (by positivity)] at kept
      rw [split]
      exact Nat.mul_dvd_mul_right (Dvd.intro_left _ kept) _
  · rintro ⟨s, exact⟩
    have whole : leadingDigits a = s := by
      rw [leadingDigits, exact, Nat.mul_comm, roundDiv_mul _ (by positivity)]
    rw [keptInteger, whole, Nat.mul_comm, ← exact, roundDiv_mul _ (by positivity)]

/-- Zeros at the end of an integer make it longer. -/
theorem log2_mul_twoPow (positive : a ≠ 0) (k : Nat) : (a * twoPow k).log2 = a.log2 + k := by
  rw [Nat.log2_eq_iff (Nat.mul_ne_zero positive (twoPow_pos k).ne'), add_right_comm, pow_add,
    pow_add _ (a.log2 + 1), ← twoPow_eq k]
  have low : 2 ^ a.log2 ≤ a := Nat.log2_self_le positive
  have high : a < 2 ^ (a.log2 + 1) := Nat.lt_log2_self
  exact ⟨Nat.mul_le_mul_right _ low, Nat.mul_lt_mul_of_pos_right high (twoPow_pos k)⟩

theorem dvd_iff_fitsSignificand {n : Int} (nonzero : n ≠ 0) :
    2 ^ n.natAbs.log2 ∣ n.natAbs * 2 ^ 52 ↔ FitsSignificand n := by
  constructor
  · intro dvd
    by_cases few : n.natAbs.log2 ≤ 52
    · apply fitsSignificand_of_natAbs_lt
      exact lt_of_lt_of_le Nat.lt_log2_self (Nat.pow_le_pow_right (by decide) (by omega))
    · have behind : ∃ k, n.natAbs.log2 = k + 52 := ⟨n.natAbs.log2 - 52, by omega⟩
      rcases behind with ⟨k, length⟩
      rw [length, pow_add] at dvd
      rcases Int.natCast_dvd.mpr (Nat.dvd_of_mul_dvd_mul_right (by decide) dvd) with ⟨m, rfl⟩
      refine ⟨m, k, ?_, by push_cast; ring⟩
      have size : (((2 ^ k : Nat) : Int) * m).natAbs < 2 ^ (k + 52 + 1) := length ▸ Nat.lt_log2_self
      rw [Int.natAbs_mul, Int.natAbs_natCast, add_assoc, pow_add] at size
      exact Nat.lt_of_mul_lt_mul_left size
  · rintro ⟨m, k, short, rfl⟩
    have positive : m.natAbs ≠ 0 := by
      rintro zero
      rw [Int.natAbs_eq_zero.mp zero, zero_mul] at nonzero
      exact nonzero rfl
    have few : m.natAbs.log2 ≤ 52 := by
      rw [← Nat.lt_succ_iff, Nat.log2_lt positive]
      exact short
    have size : (m * 2 ^ k).natAbs = m.natAbs * twoPow k := by
      rw [Int.natAbs_mul, Int.natAbs_pow]
      rfl
    rw [size, log2_mul_twoPow positive, pow_add, mul_right_comm, twoPow_eq]
    exact Nat.mul_dvd_mul_right ((pow_dvd_pow 2 few).mul_left _) _

end Digits

namespace Binary64

/-! ## The fields of a number from its bits -/

section Fields

variable {negative : Bool} {bits : Nat}

theorem toNat_ofMagnitudeBits (small : bits < 2 ^ 63) :
    (ofMagnitudeBits negative bits).bits.toNat = (if negative then 2 ^ 63 else 0) + bits := by
  rw [ofMagnitudeBits, twoPow_eq]
  cases negative <;> simp <;> omega

theorem negative_ofMagnitudeBits (small : bits < 2 ^ 63) :
    (ofMagnitudeBits negative bits).negative = negative := by
  rw [Binary64.negative, toNat_ofMagnitudeBits small, twoPow_eq]
  cases negative <;> simp
  omega

theorem exponentField_ofMagnitudeBits (small : bits < 2 ^ 63) :
    (ofMagnitudeBits negative bits).exponentField = bits / 2 ^ 52 := by
  rw [exponentField, toNat_ofMagnitudeBits small, twoPow_eq, twoPow_eq]
  cases negative <;> simp <;> omega

theorem fraction_ofMagnitudeBits (small : bits < 2 ^ 63) :
    (ofMagnitudeBits negative bits).fraction = bits % 2 ^ 52 := by
  rw [fraction, toNat_ofMagnitudeBits small, twoPow_eq]
  cases negative <;> simp
  omega

/-- The bits of a significand of fifty-three digits and its exponent, also where the
significand has been rounded up to the next power of two. -/
theorem magnitude_ofMagnitudeBits {shift digits : Nat} (normal : 2 ^ 52 ≤ digits)
    (carried : digits ≤ 2 ^ 53) (range : shift < 2000) :
    (ofMagnitudeBits negative (shift * 2 ^ 52 + digits)).magnitude = digits * 2 ^ shift := by
  have small : shift * 2 ^ 52 + digits < 2 ^ 63 := by omega
  rw [magnitude, significand, Binary64.shift, exponentField_ofMagnitudeBits small,
    fraction_ofMagnitudeBits small, twoPow_eq, twoPow_eq]
  by_cases carry : digits = 2 ^ 53
  · have exponent : (shift * 2 ^ 52 + digits) / 2 ^ 52 = shift + 2 := by omega
    have fraction : (shift * 2 ^ 52 + digits) % 2 ^ 52 = 0 := by omega
    rw [exponent, fraction, if_neg (by omega), carry, Nat.add_zero, Nat.add_succ_sub_one, ← pow_add,
      ← pow_add]
    congr 1
    omega
  · have exponent : (shift * 2 ^ 52 + digits) / 2 ^ 52 = shift + 1 := by omega
    have fraction : (shift * 2 ^ 52 + digits) % 2 ^ 52 = digits - 2 ^ 52 := by omega
    rw [exponent, fraction, if_neg (by omega), Nat.add_sub_cancel' normal, Nat.add_sub_cancel]

end Fields

/-! ## Integers that become doubles -/

theorem unitsPerOne_eq : unitsPerOne = twoPow 52 * twoPow 1022 :=
  twoPow_add 52 1022

/-- The bits of a positive integer hold its first digits. -/
theorem nearestBits_mul_unitsPerOne {a : Nat} (positive : a ≠ 0) (range : a.log2 < 900) :
    nearestBits (a * unitsPerOne) 1 = (a.log2 + 1022) * 2 ^ 52 + leadingDigits a := by
  have length : (a * unitsPerOne).log2 = a.log2 + 1074 := log2_mul_twoPow positive 1074
  have nonzero : a * unitsPerOne ≠ 0 := Nat.mul_ne_zero positive (twoPow_pos 1074).ne'
  have large : ¬ a * unitsPerOne < 2 ^ 53 := by
    rw [← Nat.log2_lt nonzero, length]
    omega
  have shift : a.log2 + 1074 - 52 = a.log2 + 1022 := by omega
  have digits : roundDiv (a * unitsPerOne) (twoPow (a.log2 + 1022)) = leadingDigits a := by
    rw [unitsPerOne_eq, ← Nat.mul_assoc, twoPow_add, roundDiv_mul_mul _ _ (twoPow_pos _)]
    rfl
  have finite : (a.log2 + 1022) * 2 ^ 52 + leadingDigits a ≤ infinityBits := by
    have carried := leadingDigits_le a
    rw [infinityBits, twoPow_eq]
    omega
  simp only [nearestBits, Nat.div_one, Nat.one_mul, twoPow_eq 53, twoPow_eq 52, if_neg large,
    length, shift, digits, Nat.min_eq_left finite]

/-- An integer other than zero becomes a double that holds its first digits. -/
theorem ofInt_eq {n : Int} (nonzero : n ≠ 0) (range : n.natAbs.log2 < 900) :
    ofInt n = ofMagnitudeBits (n < 0)
      ((n.natAbs.log2 + 1022) * 2 ^ 52 + leadingDigits n.natAbs) := by
  rw [ofInt, ofRatio, nearestBits_mul_unitsPerOne (Int.natAbs_ne_zero.mpr nonzero) range]

/-- The double that an integer becomes is read as the integer of its first digits. -/
theorem round?_ofInt {n : Int} (range : n.natAbs.log2 < 900) :
    (ofInt n).round? = some (n.sign * keptInteger n.natAbs) := by
  by_cases zero : n = 0
  · subst zero
    decide +kernel
  have normal := le_leadingDigits (Int.natAbs_ne_zero.mpr zero)
  have carried := leadingDigits_le n.natAbs
  have small : (n.natAbs.log2 + 1022) * 2 ^ 52 + leadingDigits n.natAbs < 2 ^ 63 := by omega
  have finite : (ofInt n).isFinite = true := by
    rw [ofInt_eq zero range, isFinite, exponentField_ofMagnitudeBits small, bne_iff_ne]
    omega
  have rounded : roundDiv (ofInt n).magnitude unitsPerOne = keptInteger n.natAbs := by
    rw [ofInt_eq zero range, magnitude_ofMagnitudeBits normal carried (by omega), unitsPerOne_eq,
      ← twoPow_eq, twoPow_add, ← Nat.mul_assoc, roundDiv_mul_mul _ _ (twoPow_pos _)]
    rfl
  have sign : (ofInt n).negative = decide (n < 0) := by
    rw [ofInt_eq zero range, negative_ofMagnitudeBits small]
  rw [round?, if_pos finite]
  simp only [rounded, sign, decide_eq_true_eq]
  rcases lt_or_gt_of_ne zero with below | above
  · rw [if_pos below, Int.sign_eq_neg_one_of_neg below, neg_one_mul]
  · rw [if_neg (not_lt.mpr above.le), Int.sign_eq_one_of_pos above, one_mul]

/-- The double that an integer becomes is read as that integer exactly if all digits of the
integer fit its significand. -/
theorem round?_ofInt_eq_self_iff {n : Int} (range : n.natAbs.log2 < 900) :
    (ofInt n).round? = some n ↔ FitsSignificand n := by
  rw [round?_ofInt range, Option.some.injEq]
  by_cases zero : n = 0
  · subst zero
    exact iff_of_true (by simp) (fitsSignificand_of_natAbs_lt (by decide))
  rw [← dvd_iff_fitsSignificand zero, ← keptInteger_eq_self_iff]
  have size : n.sign * n.natAbs = n := Int.sign_mul_natAbs n
  constructor
  · intro kept
    have same := kept.trans size.symm
    have unsigned := Int.eq_of_mul_eq_mul_left (mt Int.sign_eq_zero_iff_zero.mp zero) same
    exact_mod_cast unsigned
  · intro kept
    rw [kept, size]

/-! ## Equality -/

/-- Zero is read as such, whatever its sign. -/
theorem round?_of_isZero {x : Binary64} (zero : x.isZero = true) : x.round? = some 0 := by
  rw [isZero, Bool.and_eq_true, beq_iff_eq, beq_iff_eq] at zero
  have magnitude : x.magnitude = 0 := by
    rw [magnitude, significand, if_pos zero.1, zero.2, Nat.zero_mul]
  have finite : x.isFinite = true := by
    rw [isFinite, zero.1]
    rfl
  rw [round?, if_pos finite, magnitude]
  cases x.negative <;> simp [roundDiv, unitsPerOne, twoPow_pos]

/-- Numbers that are equal are read as one integer. -/
theorem round?_of_same {x y : Binary64} (same : x.same y = true) : x.round? = y.round? := by
  simp only [Binary64.same, Bool.and_eq_true, Bool.or_eq_true, beq_iff_eq] at same
  rcases same.2 with bits | ⟨zero, zero'⟩
  · have equal : x = y := congrArg Binary64.mk bits
    rw [equal]
  · rw [round?_of_isZero zero, round?_of_isZero zero']

/-- A number that is read as an integer equals itself. -/
theorem same_self {x : Binary64} {n : Int} (rounded : x.round? = some n) : x.same x = true := by
  have finite := (round?_eq_some_iff.mp rounded).1
  rw [isFinite, bne_iff_ne] at finite
  simp [Binary64.same, isNaN, finite]

/-- Integers whose digits fit are equal as doubles where they are equal. -/
theorem same_ofInt {m n : Int} (mRounded : (ofInt m).round? = some m)
    (nRounded : (ofInt n).round? = some n) : (ofInt m).same (ofInt n) = (m == n) := by
  rw [Bool.eq_iff_iff, beq_iff_eq]
  constructor
  · intro same
    have rounded := round?_of_same same
    rw [mRounded, nRounded] at rounded
    exact Option.some.inj rounded
  · rintro rfl
    exact same_self mRounded

end Binary64

end Membrane.Number
