import Membrane.Proofs.Conversion

/-!
# What a conversion gives

A conversion gives null for null and a value of the requested type for anything
else, so a converted value is converted to itself. Conversion to an integer of 32
bits is conversion to one of 64 bits and a check of the range: the two fail alike,
but for the name of the type that the fault gives (`conversion_lands_in_its_target`).
-/

namespace Membrane

open Number

/-- A fault of a conversion as it is on the way to another type: the type of which
it tells is that one. -/
def Fault.towards (target : ValueType) : Fault → Fault
  | invalidCast source _ => .invalidCast source target.display
  | format input _ => .format input target.display
  | overflow _ => .overflow target.display
  | fault => fault

namespace Value

variable {v w : Value} {target : ValueType}

/-! ## Conversion to the type of a value -/

/-- A value of a type is converted to that type as it is. -/
theorem changeType_of_type? (typed : v.type? = some target) : v.changeType target = .ok v := by
  cases v with
  | null => cases typed
  | bool b =>
    cases typed
    rfl
  | int n =>
    cases typed
    exact changeType_int_int n
  | long n =>
    cases typed
    rfl
  | double x =>
    cases typed
    rfl
  | string text =>
    cases typed
    rfl
  | object ref =>
    cases typed
    rw [changeType_object_eq _ (by simp), toObject, if_pos rfl]

/-- Null comes of null only. -/
theorem eq_null_iff_of_changeType (converted : v.changeType target = .ok w) :
    w = null ↔ v = null := by
  by_cases spared : v = null ∨ target = .any
  · rw [changeType_of_spared spared] at converted
    cases converted
    rfl
  · rcases not_or.mp spared with ⟨nonnull, narrow⟩
    have typed := type?_of_changeType nonnull narrow converted
    constructor
    · rintro rfl
      cases typed
    · intro null
      exact absurd null nonnull

/-- A converted value is converted to itself. -/
theorem changeType_of_changeType (converted : v.changeType target = .ok w) :
    w.changeType target = .ok w := by
  by_cases spared : v = null ∨ target = .any
  · rw [changeType_of_spared spared] at converted
    cases converted
    exact changeType_of_spared spared
  · rcases not_or.mp spared with ⟨nonnull, narrow⟩
    exact changeType_of_type? (type?_of_changeType nonnull narrow converted)

/-! ## Conversion to 32 bits -/

/-- What an integer is read for shows in the fault only. -/
theorem toLong_eq_mapError (v : Value) (target : ValueType) :
    v.toLong target = (v.toLong .long).mapError (Fault.towards target) := by
  cases v with
  | null | bool | int | long | object => rfl
  | double x =>
    simp only [toLong]
    cases x.round? with
    | none => rfl
    | some n =>
      dsimp only
      split <;> rfl
  | string text =>
    simp only [toLong]
    cases Text.readLong? text <;> rfl

/-- Narrowing is on its way to 32 bits anyhow. -/
theorem mapError_int_narrow (n : Int64) :
    (int <$> narrow n).mapError (Fault.towards .int) = int <$> narrow n := by
  rw [narrow]
  split <;> rfl

/-- Conversion to 32 bits is conversion to 64 bits and from there to 32 bits. -/
theorem changeType_int_eq_bind (nonnull : v ≠ null) :
    v.changeType .int =
      ((v.changeType .long).bind (·.changeType .int)).mapError (Fault.towards .int) := by
  rw [changeType_int_eq v nonnull, changeType_long_eq v nonnull, toLong_eq_mapError v .int]
  cases v.toLong .long with
  | error fault => rfl
  | ok n => exact (mapError_int_narrow n).symm

/-- What is converted to 32 bits is converted to 64 bits first. -/
theorem changeType_int_eq_ok_iff (nonnull : v ≠ null) :
    v.changeType .int = .ok w ↔ ∃ u, v.changeType .long = .ok u ∧ u.changeType .int = .ok w := by
  rw [changeType_int_eq_bind nonnull]
  cases v.changeType .long with
  | error fault => simp [Except.bind, Except.mapError]
  | ok u =>
    simp only [Except.ok.injEq, exists_eq_left', Except.bind]
    cases u.changeType .int <;> simp [Except.mapError]

/-- How conversions of a value to 64 and to 32 bits go together: both give the same
number, or it is one that 32 bits do not hold, or both fail for one reason. -/
inductive Narrows (v : Value) : Prop where
  | fits {m : Int64} {n : Int32} (long : v.changeType .long = .ok (.long m))
      (int : v.changeType .int = .ok (.int n)) (same : n.toInt = m.toInt)
  | outside {m : Int64} (long : v.changeType .long = .ok (.long m))
      (int : v.changeType .int = .error (.overflow "Int32"))
      (range : ¬ (-2 ^ 31 ≤ m.toInt ∧ m.toInt < 2 ^ 31))
  | overflow (long : v.changeType .long = .error (.overflow "Int64"))
      (int : v.changeType .int = .error (.overflow "Int32"))
  | cast {source : String} (long : v.changeType .long = .error (.invalidCast source "Int64"))
      (int : v.changeType .int = .error (.invalidCast source "Int32"))
  | format {input : String} (long : v.changeType .long = .error (.format input "Int64"))
      (int : v.changeType .int = .error (.format input "Int32"))

theorem exists_long_of_type? (typed : v.type? = some .long) : ∃ m, v = long m := by
  cases v with
  | long m => exact ⟨m, rfl⟩
  | _ => cases typed

theorem narrows (nonnull : v ≠ null) : v.Narrows := by
  have through := changeType_int_eq_bind nonnull
  cases converted : v.changeType .long with
  | ok u =>
    rcases exists_long_of_type? (type?_of_changeType nonnull (by simp) converted) with ⟨m, rfl⟩
    rw [converted] at through
    have narrowed : v.changeType .int = int <$> narrow m :=
      through.trans (mapError_int_narrow m)
    cases found : narrow m with
    | ok n =>
      rw [found] at narrowed
      exact .fits converted narrowed (narrow_eq_ok_iff.mp found)
    | error fault =>
      rcases narrow_eq_error_iff.mp found with ⟨range, rfl⟩
      rw [found] at narrowed
      exact .outside converted narrowed range
  | error fault =>
    rw [converted] at through
    cases changeType_eq_error_iff.mp converted with
    | ofObject => exact .cast converted through
    | format => exact .format converted through
    | overflow => exact .overflow converted through

/-! ## The two together -/

/-- What a successful conversion of a value to a type gives. -/
structure LandsIn (v : Value) (target : ValueType) (w : Value) : Prop where
  /-- Null is what null becomes, and nothing else becomes null. -/
  null : w = .null ↔ v = .null
  /-- A value that has the type stays as it is, and so does any value for the type
  that takes every value. -/
  same : target = .any ∨ v.type? = some target → w = v
  /-- Every other value becomes one of the type. -/
  typed : v ≠ .null → target ≠ .any → w.type? = some target
  /-- It is converted to itself from then on. -/
  again : w.changeType target = .ok w

/-- How the conversion of a value to 32 bits follows from the one to 64 bits. -/
structure RangeChecked (v : Value) : Prop where
  /-- A number is given for 32 bits exactly if it is for 64 bits and in the range. -/
  fits : ∀ k : ℤ, (∃ n : Int32, n.toInt = k ∧ v.changeType .int = .ok (.int n)) ↔
    (∃ m : Int64, m.toInt = k ∧ v.changeType .long = .ok (.long m)) ∧ -2 ^ 31 ≤ k ∧ k < 2 ^ 31
  /-- 32 bits overflow where 64 bits do, and where the number is out of the range. -/
  overflow : v.changeType .int = .error (.overflow "Int32") ↔
    v.changeType .long = .error (.overflow "Int64") ∨
      ∃ m : Int64, v.changeType .long = .ok (.long m) ∧
        ¬ (-2 ^ 31 ≤ m.toInt ∧ m.toInt < 2 ^ 31)
  /-- Otherwise both fail by one sort of fault, which tells of its type. -/
  alike : (∀ n, v.changeType .int ≠ .ok (.int n)) →
    v.changeType .int ≠ .error (.overflow "Int32") →
    (∃ source, v.changeType .int = .error (.invalidCast source "Int32") ∧
      v.changeType .long = .error (.invalidCast source "Int64")) ∨
    ∃ input, v.changeType .int = .error (.format input "Int32") ∧
      v.changeType .long = .error (.format input "Int64")
  /-- What 32 bits are given directly they are given by way of 64 bits, and nothing
  else. -/
  composed : ∀ w, v.changeType .int = .ok w ↔
    ∃ u, v.changeType .long = .ok u ∧ u.changeType .int = .ok w

theorem landsIn (converted : v.changeType target = .ok w) : v.LandsIn target w where
  null := eq_null_iff_of_changeType converted
  same := by
    rintro (any | typed)
    · rw [changeType_of_spared (Or.inr any)] at converted
      cases converted
      rfl
    · rw [changeType_of_type? typed] at converted
      cases converted
      rfl
  typed nonnull narrow := type?_of_changeType nonnull narrow converted
  again := changeType_of_changeType converted

theorem Narrows.fits_iff (narrows : v.Narrows) (k : ℤ) :
    (∃ n : Int32, n.toInt = k ∧ v.changeType .int = .ok (.int n)) ↔
      (∃ m : Int64, m.toInt = k ∧ v.changeType .long = .ok (.long m)) ∧
        -2 ^ 31 ≤ k ∧ k < 2 ^ 31 := by
  constructor
  · rintro ⟨n, rfl, converted⟩
    cases narrows with
    | fits long int same =>
      cases int.symm.trans converted
      exact ⟨⟨_, same.symm, long⟩, n.le_toInt, n.toInt_lt⟩
    | outside _ int | overflow _ int | cast _ int | format _ int =>
      cases int.symm.trans converted
  · rintro ⟨⟨m, rfl, converted⟩, inside⟩
    cases narrows with
    | fits long int same =>
      cases long.symm.trans converted
      exact ⟨_, same, int⟩
    | outside long _ range =>
      cases long.symm.trans converted
      exact absurd inside range
    | overflow long | cast long | format long => cases long.symm.trans converted

theorem Narrows.overflow_iff (narrows : v.Narrows) :
    v.changeType .int = .error (.overflow "Int32") ↔
      v.changeType .long = .error (.overflow "Int64") ∨
        ∃ m : Int64, v.changeType .long = .ok (.long m) ∧
          ¬ (-2 ^ 31 ≤ m.toInt ∧ m.toInt < 2 ^ 31) := by
  cases narrows with
  | @fits m n long int same =>
    have inside : -2 ^ 31 ≤ m.toInt ∧ m.toInt < 2 ^ 31 := same ▸ ⟨n.le_toInt, n.toInt_lt⟩
    simp only [int, long, reduceCtorEq, Except.ok.injEq, Value.long.injEq, exists_eq_left', inside,
      and_self, not_true_eq_false, or_self]
  | outside long int range => exact iff_of_true int (Or.inr ⟨_, long, range⟩)
  | overflow long int => exact iff_of_true int (Or.inl long)
  | cast long int => simp [long, int]
  | format long int => simp [long, int]

theorem rangeChecked (nonnull : v ≠ null) : v.RangeChecked where
  fits := (narrows nonnull).fits_iff
  overflow := (narrows nonnull).overflow_iff
  alike := by
    intro unfit inside
    cases narrows nonnull with
    | fits _ int => exact absurd int (unfit _)
    | outside _ int | overflow _ int => exact absurd int inside
    | cast long int => exact Or.inl ⟨_, int, long⟩
    | format long int => exact Or.inr ⟨_, int, long⟩
  composed _ := changeType_int_eq_ok_iff nonnull

end Value

/-- A conversion lands in its target: null becomes null, and any other value one of
the requested type, itself where it is one already, which is converted to itself.
Conversion to 32 bits gives what conversion to 64 bits gives where that is in the
range, overflows where it is not, and fails in the same way elsewhere. -/
theorem conversion_lands_in_its_target (v : Value) :
    (∀ target w, v.changeType target = .ok w → v.LandsIn target w) ∧
      (v ≠ .null → v.RangeChecked) := by
  constructor
  · intro target w converted
    exact Value.landsIn converted
  · exact Value.rangeChecked

/-- The text of a number beyond 32 bits becomes a long, which stays as it is, and
overflows on its way to an int. -/
theorem text_lands_in_long_and_overflows_int :
    let v : Value := .string "2147483648"
    let w : Value := .long 2147483648
    v.changeType .long = .ok w ∧ w.type? = some .long ∧ w.changeType .long = .ok w ∧
      v.changeType .int = .error (.overflow "Int32") := by
  intro v w
  have nonnull : v ≠ .null := by decide
  have converted : v.changeType .long = .ok w := by decide +kernel
  rcases conversion_lands_in_its_target v with ⟨lands, checked⟩
  have landed := lands .long w converted
  have overflows := (checked nonnull).overflow.mpr (Or.inr ⟨2147483648, converted, by decide⟩)
  exact ⟨converted, landed.typed nonnull (by decide), landed.again, overflows⟩

end Membrane
