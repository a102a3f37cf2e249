import Membrane.Proofs.Calls
import Membrane.Proofs.IndexedAccess
import Membrane.Proofs.Objects

/-!
# Stores into arrays

A store through an adapter converts the value, stores it, reads the element back
and converts it again. Whatever fails before the store leaves the array alone;
only an engine that takes the value and then refuses the element that is read
back gets an exception from a store that was made.
-/

namespace Membrane

variable {σ V : Type}

namespace TypedArray

variable {a changed : TypedArray} {index : Nat} {v : Value}

theorem set_eq_ok_iff :
    a.set index v = .ok changed ↔ ∃ stored, a.elementType.admit v = .ok stored ∧
      index < a.length ∧ changed = { a with elements := a.elements.set index stored } := by
  rw [set]
  cases admitted : a.elementType.admit v with
  | error fault => simp [bind, Except.bind]
  | ok stored =>
    by_cases inside : index < a.length
    · simp [bind, Except.bind, inside, eq_comm]
    · simp [bind, Except.bind, inside]

/-- What was stored is read back. -/
theorem get_set {stored : Value} (inside : index < a.length) :
    get { a with elements := a.elements.set index stored } index = .ok stored := by
  have here : (a.elements.set index stored)[index]? = some stored := by
    rw [List.getElem?_set_self inside]
  simp only [get, here]

end TypedArray

namespace World

variable {w : World σ V} {o : Nat} {a : TypedArray}

/-- An array that answers without a store stays as it is. -/
theorem object?_modifyObject_of_array (found : w.object? o = some (.array a)) (i : Nat) :
    (w.modifyObject o fun _ => .array a).object? i = w.object? i := by
  rw [object?_modifyObject]
  by_cases same : i = o
  · rw [if_pos same, same, found, Option.map_some]
  · rw [if_neg same]

/-- Only the array of a store changes. -/
theorem object?_store (found : w.object? o = some (.array a)) (changed : TypedArray) (i : Nat) :
    (w.modifyObject o fun _ => .array changed).object? i =
      if i = o then some (.array changed) else w.object? i := by
  rw [object?_modifyObject]
  by_cases same : i = o
  · rw [if_pos same, if_pos same, same, found, Option.map_some]
  · rw [if_neg same, if_neg same]

end World

section

variable {w : World σ V} {ref : ObjectRef} {a changed : TypedArray} {index : Nat} {v : Value}
  {fault : Fault}

/-- A store that the array refuses is refused by its object, and changes nothing. -/
theorem callObject_of_set_error (found : w.object? ref.id = some (.array a))
    (refused : a.set index v = .error fault) (entry : Entry σ V) :
    let called := callObject entry ref (.setElement index v) w
    called.value = .error fault ∧ ∀ i, called.world.object? i = w.object? i := by
  have answer : HostObject.callArray a (.setElement index v) = (.error fault, a) := by
    simp only [HostObject.callArray, refused]
  simp only [callObject_of_array found, answer, true_and]
  exact World.object?_modifyObject_of_array found

/-- A store that the array takes leaves the changed array in its object. -/
theorem callObject_of_set_ok (found : w.object? ref.id = some (.array a))
    (stored : a.set index v = .ok changed) (entry : Entry σ V) :
    let called := callObject entry ref (.setElement index v) w
    called.value = .ok .null ∧ ∀ i, called.world.object? i =
      if i = ref.id then some (.array changed) else w.object? i := by
  have answer : HostObject.callArray a (.setElement index v) = (.ok .null, changed) := by
    simp only [HostObject.callArray, stored]
  simp only [callObject_of_array found, answer, true_and]
  exact World.object?_store found changed

/-- A read of an array object changes nothing. -/
theorem callObject_of_get (found : w.object? ref.id = some (.array a)) (index : Nat)
    (entry : Entry σ V) :
    let called := callObject entry ref (.getElement index) w
    called.value = a.get index ∧ ∀ i, called.world.object? i = w.object? i := by
  have answer : HostObject.callArray a (.getElement index) = (a.get index, a) := rfl
  simp only [callObject_of_array found, answer, true_and]
  exact World.object?_modifyObject_of_array found

end

namespace Adapter

variable {w : World σ V} {entry : Entry σ V} {a : Adapter V} {array : TypedArray}
  {index : UInt32} {v : V}

/-- An engine takes a value for an element, and refuses what the array stores for
it. -/
def RefusesStored (a : Adapter V) (array : TypedArray) (index : UInt32) (v : V) (stored : Value)
    (fault : Fault) : Prop :=
  ∃ value, a.codec.fromEngine v = .ok value ∧ array.elementType.admit value = .ok stored ∧
    index.toNat < array.length ∧ a.codec.toEngine stored = .error fault

theorem setIndexed_of_array (found : w.object? a.object.id = some (.array array)) :
    a.setIndexed entry index v w =
      match a.codec.fromEngine v with
      | .error fault => ⟨a.codec.throw (.ofFault fault), [], w⟩
      | .ok value => a.setElement entry index value w := by
  apply setIndexed_of_kind_array
  rw [World.surface, found]
  rfl

/-- A store that the array refuses raises the refusal and stores nothing. -/
theorem setElement_of_refused {value : Value} {fault : Fault}
    (found : w.object? a.object.id = some (.array array))
    (refused : array.set index.toNat value = .error fault) :
    let outcome := a.setElement entry index value w
    outcome.value = a.codec.throw (.ofFault fault) ∧
      ∀ i, outcome.world.object? i = w.object? i := by
  obtain ⟨answer, after⟩ := callObject_of_set_error found refused entry
  simp only [setElement, bind, Act.bind, answer, pure, Act.pure, true_and]
  exact after

/-- A store that the array takes answers the element that is read back. -/
theorem setElement_of_stored {value : Value} {changed : TypedArray}
    (found : w.object? a.object.id = some (.array array))
    (stored : array.set index.toNat value = .ok changed) :
    let outcome := a.setElement entry index value w
    outcome.value = a.codec.deliver .ofFault (changed.get index.toNat) ∧
      ∀ i, outcome.world.object? i =
        if i = a.object.id then some (.array changed) else w.object? i := by
  obtain ⟨answer, after⟩ := callObject_of_set_ok found stored entry
  obtain ⟨read, unmoved⟩ :=
    callObject_of_get ((after a.object.id).trans (if_pos rfl)) index.toNat entry
  simp only [setElement, bind, Act.bind, answer, read, pure, Act.pure, true_and]
  intro i
  rw [unmoved, after]

/-- An engine that refuses the element read back gets its own fault, after the
store. -/
theorem setIndexed_of_refusesStored {stored : Value} {fault : Fault}
    (found : w.object? a.object.id = some (.array array))
    (refuses : a.RefusesStored array index v stored fault) :
    let outcome := a.setIndexed entry index v w
    outcome.value = .thrown (a.codec.throwing (.ofFault fault)) ∧
      ∀ i, outcome.world.object? i =
        if i = a.object.id then
          some (.array { array with elements := array.elements.set index.toNat stored })
        else w.object? i := by
  obtain ⟨value, taken, admitted, inside, refused⟩ := refuses
  have made := TypedArray.set_eq_ok_iff.mpr ⟨stored, admitted, inside, rfl⟩
  obtain ⟨answer, after⟩ := setElement_of_stored found made
  intro outcome
  have outcome_eq : outcome = a.setElement entry index value w := by
    simp only [outcome, setIndexed_of_array found, taken]
  rw [outcome_eq]
  refine ⟨?_, after⟩
  rw [answer, TypedArray.get_set inside]
  simp only [Codec.deliver, Except.bind, refused, Codec.conclude, Codec.throw]

/-- Not every exception leaves an array as it was: a text that the engine hands
over and then refuses to be handed back stays in the array. -/
theorem throw_can_follow_store :
    ¬ ∀ (w : World Unit Value) (a : Adapter Value) (array : TypedArray) (index : UInt32)
        (v : Value) (thrown : Thrown Value),
      w.object? a.object.id = some (.array array) →
      (a.setIndexed none index v w).value = .thrown thrown →
      (a.setIndexed none index v w).world.object? a.object.id = some (.array array) := by
  intro always
  let array : TypedArray := ⟨.string, [.string "a"]⟩
  let w : World Unit Value := (World.empty.addObject (.array array)).2
  let a : Adapter Value :=
    { object := ⟨0, array.typeName⟩, codec := .direct, options := .unset, trampoline := .bound }
  have found : w.object? a.object.id = some (.array array) := rfl
  have refuses : a.RefusesStored array 0 (.string "!enc") (.string "!enc")
      (.native "cannot encode !enc") :=
    ⟨.string "!enc", rfl, rfl, by decide, rfl⟩
  obtain ⟨throws, stores⟩ := setIndexed_of_refusesStored found refuses
  have kept := (stores 0).symm.trans (always w a array 0 (.string "!enc") _ found throws)
  simp [a, array] at kept

/-- An exception leaves an array as it was, unless the engine took the value, the
array stored it, and the engine refused the element that was read back; then
that element holds what was stored, nothing else changed, and the exception is
the engine's refusal. -/
theorem array_unchanged_unless_refused (found : w.object? a.object.id = some (.array array))
    (entry : Entry σ V) (index : UInt32) (v : V) {thrown : Thrown V}
    (throws : (a.setIndexed entry index v w).value = .thrown thrown) :
    let after := (a.setIndexed entry index v w).world
    (∀ i, after.object? i = w.object? i) ∨
      ∃ stored fault, a.RefusesStored array index v stored fault ∧
        thrown = a.codec.throwing (.ofFault fault) ∧
        ∀ i, after.object? i =
          if i = a.object.id then
            some (.array { array with elements := array.elements.set index.toNat stored })
          else w.object? i := by
  intro after
  cases taken : a.codec.fromEngine v with
  | error fault =>
    left
    simp only [after, setIndexed_of_array found, taken, implies_true]
  | ok value =>
    have outcome_eq : a.setIndexed entry index v w = a.setElement entry index value w := by
      simp only [setIndexed_of_array found, taken]
    cases made : array.set index.toNat value with
    | error fault =>
      left
      simp only [after, outcome_eq]
      exact (setElement_of_refused found made).2
    | ok changed =>
      right
      obtain ⟨stored, admitted, inside, rfl⟩ := TypedArray.set_eq_ok_iff.mp made
      obtain ⟨answer, stores⟩ := setElement_of_stored found made
      rw [outcome_eq, answer, TypedArray.get_set inside] at throws
      cases refused : a.codec.toEngine stored with
      | ok v =>
        simp [Codec.deliver, Except.bind, refused, Codec.conclude] at throws
      | error fault =>
        have same : a.codec.throwing (.ofFault fault) = thrown := by
          simpa [Codec.deliver, Except.bind, refused, Codec.conclude, Codec.throw] using throws
        refine ⟨stored, fault, ⟨value, taken, admitted, inside, refused⟩, same.symm, ?_⟩
        simp only [after, outcome_eq]
        exact stores

/-- A value of another type raises an exception, and the array stays as it was. -/
theorem array_unchanged_by_wrong_type :
    let array : TypedArray := ⟨.int, [.int 0]⟩
    let w : World Unit Value := (World.empty.addObject (.array array)).2
    let a : Adapter Value :=
      { object := ⟨0, array.typeName⟩, codec := .direct, options := .unset, trampoline := .bound }
    let outcome := a.setIndexed none 0 (.string "x") w
    (∃ thrown, outcome.value = .thrown thrown) ∧
      outcome.world.object? 0 = some (.array array) := by
  intro array w a outcome
  have found : w.object? a.object.id = some (.array array) := rfl
  have throws : outcome.value =
      .thrown (a.codec.throwing (.ofFault ((Value.string "x").castFault .int))) := rfl
  refine ⟨⟨_, throws⟩, ?_⟩
  rcases array_unchanged_unless_refused found none 0 (.string "x") throws with same | refused
  · exact (same 0).trans found
  · obtain ⟨stored, fault, ⟨value, taken, admitted, _⟩, _⟩ := refused
    cases taken
    cases admitted

end Adapter

end Membrane
