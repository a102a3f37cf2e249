import Membrane.Proofs.ConvertedValues
import Membrane.Proofs.ElementAccess

/-!
# Scalars that are taken out of values

A value is taken out as a scalar of some type, it is stored in an array of that
type, and it is converted to that type. The first two take the same values, those
whose type widens to the scalar's, and refuse all others by one fault; and what they
take is what the conversion gives
(`extraction_store_and_conversion_agree`).
-/

namespace Membrane

namespace ValueType

variable {element : ValueType} {v stored : Value}

/-- What an array keeps of a value other than null is the value converted to the
element type. -/
theorem Represents.changeType (represents : element.Represents v stored) (nonnull : v ≠ .null) :
    v.changeType element = .ok stored := by
  cases represents with
  | null => exact absurd rfl nonnull
  | widened _ _ _ converted => exact converted
  | @assignable _ source typed fits =>
    rcases Bool.or_eq_true_iff.mp fits with any | same
    · exact Value.changeType_of_spared (Or.inr (beq_iff_eq.mp any))
    · rw [← beq_iff_eq.mp same] at typed
      exact Value.changeType_of_type? typed

/-- The values that are admitted are those an array can be given. -/
theorem exists_admit_iff_takes :
    (∃ stored, ValueType.admit element v = .ok stored) ↔ element.Takes v := by
  rw [takes_iff_exists_represents]
  exact exists_congr fun _ => admit_eq_ok_iff

/-- A value can be given if its type widens. -/
theorem takes_iff_of_type? {source : ValueType} (typed : v.type? = some source) :
    element.Takes v ↔ element.widensFrom source = true := by
  constructor
  · intro takes
    exact takes source typed
  · intro widens other same
    cases typed.symm.trans same
    exact widens

end ValueType

namespace Value

variable {v : Value} {target : ValueType}

theorem exists_type?_of_ne_null (nonnull : v ≠ null) : ∃ source, v.type? = some source := by
  cases v with
  | null => exact absurd rfl nonnull
  | bool | int | long | double | string | object => exact ⟨_, rfl⟩

/-- What is taken out of a value as a scalar is what an array of that type stores of
it, and the refusals are the same. -/
theorem extract_eq_of_isScalar (nonnull : v ≠ null) (scalar : target.IsScalar) :
    v.extract target = ValueType.admit target v := by
  cases target with
  | any | object => exact scalar.elim
  | bool | int | long | double | string =>
    cases v with
    | null => exact absurd rfl nonnull
    | bool | int | long | double | string | object => rfl

/-- What is taken out is a value of the scalar's type, and what the value is
converted to. -/
theorem type?_and_changeType_of_extract {taken : Value} (nonnull : v ≠ null)
    (scalar : target.IsScalar) (extracted : v.extract target = .ok taken) :
    taken.type? = some target ∧ v.changeType target = .ok taken := by
  have admitted := (extract_eq_of_isScalar nonnull scalar).symm.trans extracted
  have converted := (ValueType.admit_eq_ok_iff.mp admitted).changeType nonnull
  have narrow : target ≠ .any := by
    rintro rfl
    exact scalar
  exact ⟨type?_of_changeType nonnull narrow converted, converted⟩

end Value

/-! ## Arrays -/

namespace TypedArray

variable {a : TypedArray} {index : Nat} {v : Value}

theorem exists_set_iff_takes (inside : index < a.length) :
    (∃ changed, a.set index v = .ok changed) ↔ a.elementType.Takes v := by
  rw [← ValueType.exists_admit_iff_takes]
  constructor
  · rintro ⟨changed, stored⟩
    rcases set_eq_ok_iff.mp stored with ⟨kept, admitted, _⟩
    exact ⟨kept, admitted⟩
  · rintro ⟨kept, admitted⟩
    exact ⟨_, set_eq_ok_iff.mpr ⟨kept, admitted, inside, rfl⟩⟩

/-- An array is made of one value as the value is admitted. -/
theorem ofValues_singleton (element : ValueType) (v : Value) :
    ofValues element [v] = (⟨element, [·]⟩) <$> ValueType.admit element v := by
  simp only [ofValues, List.mapM_cons, List.mapM_nil]
  cases ValueType.admit element v <;> rfl

theorem exists_ofValues_singleton_iff_takes {element : ValueType} :
    (∃ a, ofValues element [v] = .ok a) ↔ element.Takes v := by
  rw [← ValueType.exists_admit_iff_takes, ofValues_singleton]
  cases ValueType.admit element v <;> simp

end TypedArray

/-! ## The three together -/

/-- How a value of a type is taken out as a scalar, stored as an element, and
converted. -/
structure TakenAlike (v : Value) (source target : ValueType) : Prop where
  /-- It is taken out exactly if its type widens to the scalar's. -/
  extracted : (∃ taken, v.extract target = .ok taken) ↔ target.widensFrom source = true
  /-- Exactly then an array of scalars accepts it as an element. -/
  stored : ∀ (a : TypedArray) (index : Nat), a.elementType = target → index < a.length →
    ((∃ changed, a.set index v = .ok changed) ↔ target.widensFrom source = true)
  /-- Exactly then an array of scalars is made of it. -/
  made : (∃ a, TypedArray.ofValues target [v] = .ok a) ↔ target.widensFrom source = true
  /-- What is taken out has the scalar's type, is what the value is converted to,
  and is what an array keeps of it. -/
  agree : ∀ taken, v.extract target = .ok taken →
    taken.type? = some target ∧ v.changeType target = .ok taken ∧
      TypedArray.ofValues target [v] = .ok ⟨target, [taken]⟩ ∧
      ∀ (a : TypedArray) (index : Nat), a.elementType = target → index < a.length →
        a.set index v = .ok (a.replaced index taken)
  /-- A value that does not widen is refused by one fault everywhere, at whatever
  index. -/
  refuse : target.widensFrom source = false →
    v.extract target = .error (.invalidCast v.label target.display) ∧
      TypedArray.ofValues target [v] = .error (.invalidCast v.label target.display) ∧
      ∀ (a : TypedArray) (index : Nat), a.elementType = target →
        a.set index v = .error (.invalidCast v.label target.display)

theorem Value.takenAlike {v : Value} {source target : ValueType}
    (typed : v.type? = some source) (nonnull : v ≠ .null) (scalar : target.IsScalar) :
    TakenAlike v source target := by
  have widens : target.Takes v ↔ target.widensFrom source = true :=
    ValueType.takes_iff_of_type? typed
  have alike := Value.extract_eq_of_isScalar nonnull scalar
  constructor
  case extracted =>
    rw [alike, ← widens]
    exact ValueType.exists_admit_iff_takes
  case stored =>
    rintro a index rfl inside
    exact (TypedArray.exists_set_iff_takes inside).trans widens
  case made => exact TypedArray.exists_ofValues_singleton_iff_takes.trans widens
  case agree =>
    intro taken extracted
    have admitted := alike.symm.trans extracted
    have made : TypedArray.ofValues target [v] = .ok ⟨target, [taken]⟩ := by
      rw [TypedArray.ofValues_singleton, admitted]
      rfl
    have stored : ∀ (a : TypedArray) (index : Nat), a.elementType = target → index < a.length →
        a.set index v = .ok (a.replaced index taken) := by
      rintro a index rfl inside
      exact TypedArray.set_of_represents (ValueType.admit_eq_ok_iff.mp admitted) inside
    rcases type?_and_changeType_of_extract nonnull scalar extracted with ⟨lands, converted⟩
    exact ⟨lands, converted, made, stored⟩
  case refuse =>
    intro narrow
    have refuses := mt widens.mp (Bool.eq_false_iff.mp narrow)
    have refused := ValueType.admit_of_not_takes refuses
    have unmade : TypedArray.ofValues target [v] =
        .error (.invalidCast v.label target.display) := by
      rw [TypedArray.ofValues_singleton, refused]
      rfl
    have unstored : ∀ (a : TypedArray) (index : Nat), a.elementType = target →
        a.set index v = .error (.invalidCast v.label target.display) := by
      rintro a index rfl
      exact TypedArray.set_of_not_takes refuses
    exact ⟨alike.trans refused, unmade, unstored⟩

/-- Values are taken out as scalars, stored as elements of arrays of scalars, and
converted alike: the first two are possible for the values whose type widens to the
scalar's, give what the conversion gives, and are refused by one fault elsewhere. -/
theorem extraction_store_and_conversion_agree {v : Value} {target : ValueType}
    (nonnull : v ≠ .null) (scalar : target.IsScalar) :
    ∃ source, v.type? = some source ∧ TakenAlike v source target := by
  rcases Value.exists_type?_of_ne_null nonnull with ⟨source, typed⟩
  exact ⟨source, typed, Value.takenAlike typed nonnull scalar⟩

/-- An int is taken out as the long that an array of longs keeps of it, and a text is
refused as an int, although it could be converted. -/
theorem int_and_text_are_taken_alike :
    let longs : TypedArray := ⟨.long, [.long 0]⟩
    let ints : TypedArray := ⟨.int, [.int 0]⟩
    (Value.int 7).extract .long = .ok (.long 7) ∧
      (Value.int 7).changeType .long = .ok (.long 7) ∧
      longs.set 0 (.int 7) = .ok ⟨.long, [.long 7]⟩ ∧
      (Value.string "7").changeType .int = .ok (.int 7) ∧
      (Value.string "7").extract .int = .error (.invalidCast "String" "Int32") ∧
      ints.set 0 (.string "7") = .error (.invalidCast "String" "Int32") := by
  intro longs ints
  rcases @extraction_store_and_conversion_agree (.int 7) .long (by decide) trivial with
    ⟨_, intType, ofInt⟩
  rcases @extraction_store_and_conversion_agree (.string "7") .int (by decide) trivial with
    ⟨_, textType, ofText⟩
  cases intType
  cases textType
  have extracted : (Value.int 7).extract .long = .ok (.long 7) := rfl
  rcases ofInt.agree _ extracted with ⟨_, converted, _, stored⟩
  rcases ofText.refuse rfl with ⟨refused, _, unstored⟩
  have parsed : (Value.string "7").changeType .int = .ok (.int 7) := by decide +kernel
  exact ⟨extracted, converted, stored longs 0 rfl (by decide), parsed, refused, unstored ints 0 rfl⟩

end Membrane
