import Membrane.Proofs.Extraction
import Membrane.Proofs.IntegerDoubles

/-!
# Stores that lose nothing

What an array keeps of a value that widens to its element type is converted back to the
value, with one exception: a double has fifty-three binary digits, and a long may have more
of them before the zeros at its end (`stores_convert_back_iff_kept_whole`). Two longs of
which an array of doubles keeps less than all digits can leave one element.
-/

namespace Membrane

open Number

/-! ## What an array keeps of a value that widens -/

/-- An array of this element type keeps all of a value: of every value but the longs that an
array of doubles has no digits for. -/
def ValueType.KeepsWhole (element : ValueType) (v : Value) : Prop :=
  ∀ n, element = .double → v = .long n → FitsSignificand n.toInt

theorem ValueType.keepsWhole_long_iff {n : Int64} :
    ValueType.double.KeepsWhole (.long n) ↔ FitsSignificand n.toInt := by
  constructor
  · intro keeps
    exact keeps n rfl rfl
  · rintro fits m _ ⟨⟩
    exact fits

namespace Value

/-- What becomes of a value of some type where a type that widens from it is asked for: a
value of the type itself stays, and integers become wider or doubles. -/
inductive Widened : Value → ValueType → ValueType → Value → Prop where
  | same {v : Value} {type : ValueType} (typed : v.type? = some type) : Widened v type type v
  | toLong (n : Int32) : Widened (int n) .int .long (long n.toInt64)
  | intToDouble (n : Int32) : Widened (int n) .int .double (double (.ofInt n.toInt))
  | longToDouble (n : Int64) : Widened (long n) .long .double (double (.ofInt n.toInt))

variable {v other stored kept : Value} {source element : ValueType}

theorem exists_widened (typed : v.type? = some source) (widens : element.widensFrom source = true)
    (narrow : element ≠ .any) : ∃ stored, v.Widened source element stored := by
  rcases Bool.or_eq_true_iff.mp widens with assignable | wider
  · rcases Bool.or_eq_true_iff.mp assignable with any | same
    · exact absurd (beq_iff_eq.mp any) narrow
    · cases beq_iff_eq.mp same
      exact ⟨v, .same typed⟩
  · split at wider
    · cases v <;> cases typed
      exact ⟨_, .toLong _⟩
    · cases v <;> cases typed
      exact ⟨_, .intToDouble _⟩
    · cases v <;> cases typed
      exact ⟨_, .longToDouble _⟩
    · cases wider

theorem Widened.represents (widened : v.Widened source element stored) :
    element.Represents v stored := by
  cases widened with
  | same typed => exact .assignable typed (ValueType.isAssignableFrom_self source)
  | toLong n => exact .widened rfl rfl rfl rfl
  | intToDouble n => exact .widened rfl rfl rfl rfl
  | longToDouble n => exact .widened rfl rfl rfl rfl

/-- What an array keeps is settled by the value. -/
theorem Widened.unique (widened : v.Widened source element stored)
    (represents : element.Represents v kept) : kept = stored := by
  have first := ValueType.admit_eq_ok_iff.mpr represents
  have second := ValueType.admit_eq_ok_iff.mpr widened.represents
  exact Except.ok.inj (first.symm.trans second)

theorem round?_ofInt_int (n : Int32) : (Binary64.ofInt n.toInt).round? = some n.toInt := by
  have low := n.le_toInt
  have high := n.toInt_lt
  rw [Binary64.round?_ofInt_eq_self_iff (log2_natAbs_lt (by omega) (by omega))]
  exact fitsSignificand_of_natAbs_lt (by omega)

theorem round?_ofInt_long_iff {n : Int64} :
    (Binary64.ofInt n.toInt).round? = some n.toInt ↔ FitsSignificand n.toInt :=
  Binary64.round?_ofInt_eq_self_iff (log2_natAbs_lt n.le_toInt n.toInt_lt)

/-- What is kept of a value is converted back to it exactly if all of it is kept. -/
theorem Widened.changeType_iff (widened : v.Widened source element stored) :
    stored.changeType source = .ok v ↔ element.KeepsWhole v := by
  cases widened with
  | same typed =>
    refine iff_of_true (changeType_of_type? typed) ?_
    rintro n rfl rfl
    cases typed
  | toLong n =>
    refine iff_of_true ?_ ?_
    · rw [changeType_int_eq _ (by simp)]
      exact int_narrow_eq_ok_iff.mpr n.toInt_toInt64.symm
    · rintro m ⟨⟩
  | intToDouble n =>
    refine iff_of_true ?_ ?_
    · rw [changeType_int_of_round? (round?_ofInt_int n), if_pos ⟨n.le_toInt, n.toInt_lt⟩,
        n.ofInt_toInt]
    · rintro m _ ⟨⟩
  | longToDouble n =>
    have rounded := Binary64.round?_ofInt (log2_natAbs_lt n.le_toInt n.toInt_lt)
    rw [ValueType.keepsWhole_long_iff, ← round?_ofInt_long_iff,
      changeType_long_of_round? rounded, checked_eq_ok_iff, Value.long.injEq, ofInt64_iff, rounded,
      Option.some.injEq, eq_comm]

/-- Values of which all is kept are equal where the elements are. -/
theorem Widened.same_eq (widened : v.Widened source element stored)
    (otherWidened : other.Widened source element kept) (keeps : element.KeepsWhole v)
    (otherKeeps : element.KeepsWhole other) : kept.same stored = other.same v := by
  cases widened with
  | same => cases otherWidened with | same => rfl
  | toLong n =>
    cases otherWidened with
    | toLong m =>
      show (m.toInt64 == n.toInt64) = (m == n)
      rw [Bool.eq_iff_iff, beq_iff_eq, beq_iff_eq, ← Int64.toInt_inj, Int32.toInt_toInt64,
        Int32.toInt_toInt64, Int32.toInt_inj]
  | intToDouble n =>
    cases otherWidened with
    | intToDouble m =>
      show (Binary64.ofInt m.toInt).same (.ofInt n.toInt) = (m == n)
      rw [Binary64.same_ofInt (round?_ofInt_int m) (round?_ofInt_int n), Bool.eq_iff_iff,
        beq_iff_eq, beq_iff_eq, Int32.toInt_inj]
  | longToDouble n =>
    cases otherWidened with
    | longToDouble m =>
      have mRounded := round?_ofInt_long_iff.mpr (ValueType.keepsWhole_long_iff.mp otherKeeps)
      have nRounded := round?_ofInt_long_iff.mpr (ValueType.keepsWhole_long_iff.mp keeps)
      show (Binary64.ofInt m.toInt).same (.ofInt n.toInt) = (m == n)
      rw [Binary64.same_ofInt mRounded nRounded, Bool.eq_iff_iff, beq_iff_eq, beq_iff_eq,
        Int64.toInt_inj]

end Value

/-- What an array keeps of a value that widens to its element type is converted back to the
value exactly if all of it is kept, which fails only for longs in arrays of doubles that
have more than fifty-three binary digits before the zeros at their end. Two different values
of a type of which all is kept leave two different elements. -/
theorem stores_convert_back_iff_kept_whole {v : Value} {source element : ValueType}
    (typed : v.type? = some source) (widens : element.widensFrom source = true)
    (narrow : element ≠ .any) :
    ∃ stored, element.admit v = .ok stored ∧
      (∀ (a : TypedArray) (index : Nat), a.elementType = element → index < a.length →
        a.set index v = .ok (a.replaced index stored)) ∧
      (stored.changeType source = .ok v ↔ element.KeepsWhole v) ∧
      ∀ other kept, other.type? = some source → element.admit other = .ok kept →
        element.KeepsWhole v → element.KeepsWhole other →
          (kept = stored → other = v) ∧ kept.same stored = other.same v := by
  rcases Value.exists_widened typed widens narrow with ⟨stored, widened⟩
  refine ⟨stored, ValueType.admit_eq_ok_iff.mpr widened.represents, ?_, widened.changeType_iff, ?_⟩
  · rintro a index rfl inside
    exact TypedArray.set_of_represents widened.represents inside
  · intro other kept alike admitted keeps otherKeeps
    rcases Value.exists_widened alike widens narrow with ⟨otherStored, otherWidened⟩
    cases otherWidened.unique (ValueType.admit_eq_ok_iff.mp admitted)
    constructor
    · rintro rfl
      -- Both values are what the element is converted back to.
      have back := widened.changeType_iff.mpr keeps
      have otherBack := otherWidened.changeType_iff.mpr otherKeeps
      exact Except.ok.inj (otherBack.symm.trans back)
    · exact widened.same_eq otherWidened keeps otherKeeps

/-- An array of doubles keeps less than a long of fifty-four digits: its element is the same
as that of the long before it, and is converted back to that one. -/
theorem double_keeps_less_than_long :
    let v : Value := .long 9007199254740993
    let before : Value := .long 9007199254740992
    let stored : Value := .double ⟨0x4340000000000000⟩
    let doubles : TypedArray := .filled .double 1
    v.type? = some .long ∧ ValueType.double.widensFrom .long = true ∧
      doubles.set 0 v = .ok ⟨.double, [stored]⟩ ∧
      stored.changeType .long = .ok before ∧ before ≠ v ∧
      doubles.set 0 before = .ok ⟨.double, [stored]⟩ := by
  decide +kernel

/-- A long of sixty-three digits that ends in ten zeros is kept whole by an array of doubles,
and leaves another element than a power of two of the same length. -/
theorem even_long_is_kept_whole :
    let v : Value := .long 0x4000000000000400
    let power : Value := .long 0x4000000000000000
    let stored : Value := .double ⟨0x43D0000000000001⟩
    v.type? = some .long ∧ ValueType.double.widensFrom .long = true ∧ ValueType.double ≠ .any ∧
      ValueType.double.KeepsWhole v ∧ ValueType.double.KeepsWhole power ∧
      ValueType.double.admit v = .ok stored ∧ stored.changeType .long = .ok v ∧
      ∀ kept, ValueType.double.admit power = .ok kept → kept ≠ stored := by
  intro v power stored
  have whole : ValueType.double.KeepsWhole v :=
    ValueType.keepsWhole_long_iff.mpr ⟨0x10000000000001, 10, by decide, by decide⟩
  have powerWhole : ValueType.double.KeepsWhole power :=
    ValueType.keepsWhole_long_iff.mpr ⟨1, 62, by decide, by decide⟩
  have widens : ValueType.double.widensFrom .long = true := rfl
  have narrow : ValueType.double ≠ .any := by decide
  have typed : v.type? = some .long := rfl
  rcases stores_convert_back_iff_kept_whole typed widens narrow with
    ⟨element, admitted, _, back, apart⟩
  have keeps : ValueType.double.admit v = .ok stored := by decide +kernel
  cases admitted.symm.trans keeps
  refine ⟨typed, widens, narrow, whole, powerWhole, keeps, back.mpr whole, ?_⟩
  intro kept powerKept shared
  have equal := (apart power kept rfl powerKept whole powerWhole).1 shared
  exact absurd equal (by decide)

end Membrane
