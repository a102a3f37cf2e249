import Membrane.Proofs.ArrayForm

/-!
# Elements through an adapter

A write of an element answers what the array keeps of the value, not the value
itself: the default for null, a value of the type as it is, and a converted one
where it widens (`elements_are_written_and_read`). What the array keeps is kept
unchanged when it is written again.
-/

namespace Membrane

variable {σ V : Type}

/-! ## What an array keeps of a value -/

namespace ValueType

/-- What an array of an element type keeps of a value. -/
inductive Represents (element : ValueType) : Value → Value → Prop where
  | null : Represents element .null element.default
  | assignable {v : Value} {source : ValueType} (typed : v.type? = some source)
      (fits : element.isAssignableFrom source = true) : Represents element v v
  | widened {v stored : Value} {source : ValueType} (typed : v.type? = some source)
      (unfit : element.isAssignableFrom source = false)
      (widens : element.widensFrom source = true)
      (converted : v.changeType element = .ok stored) : Represents element v stored

variable {element : ValueType} {v stored : Value}

theorem admit_eq_ok_iff : element.admit v = .ok stored ↔ element.Represents v stored := by
  unfold ValueType.admit
  constructor
  · intro admitted
    cases typed : v.type? with
    | none =>
      rw [typed] at admitted
      cases admitted
      cases v with
      | null => exact .null
      | _ => cases typed
    | some source =>
      simp only [typed] at admitted
      split at admitted
      · rename_i fits
        cases admitted
        exact .assignable typed fits
      · rename_i unfit
        split at admitted
        · rename_i widens
          exact .widened typed (Bool.eq_false_iff.mpr unfit) widens admitted
        · cases admitted
  · intro represents
    cases represents with
    | null => rfl
    | assignable typed fits => simp only [typed, fits, if_true]
    | widened typed unfit widens converted =>
      simp only [typed, unfit, widens, if_true]
      exact converted

/-- Whatever an array can be given it keeps something of, and of nothing else. -/
theorem takes_iff_exists_represents : element.Takes v ↔ ∃ stored, element.Represents v stored := by
  constructor
  · intro takes
    obtain ⟨stored, admitted, _⟩ := admit_of_takes takes
    exact ⟨stored, admit_eq_ok_iff.mp admitted⟩
  · rintro ⟨stored, represents⟩ source type
    cases represents with
    | null => cases type
    | assignable typed fits =>
      cases typed.symm.trans type
      exact widensFrom_of_isAssignableFrom fits
    | widened typed _ widens _ =>
      cases typed.symm.trans type
      exact widens

theorem Represents.holds (represents : element.Represents v stored) : element.Holds stored :=
  holds_of_admit (admit_eq_ok_iff.mpr represents)

/-- A value that an array may hold stands for itself. -/
theorem Holds.represents (holds : element.Holds v) : element.Represents v v := by
  rw [Holds] at holds
  cases typed : v.type? with
  | some source =>
    rw [typed] at holds
    exact .assignable typed holds
  | none =>
    rw [typed] at holds
    cases v with
    | null =>
      -- A type that takes null has it for its default.
      have isDefault : element.default = .null := by
        cases element <;> first | rfl | cases holds
      have keeps : element.Represents .null element.default := .null
      rwa [isDefault] at keeps
    | _ => cases typed

end ValueType

/-! ## How an access to an element ends -/

namespace TypedArray

/-- An array after an element was replaced. -/
def replaced (a : TypedArray) (index : Nat) (stored : Value) : TypedArray :=
  { a with elements := a.elements.set index stored }

variable {a : TypedArray} {index : Nat} {v stored : Value}

theorem set_of_represents (represents : a.elementType.Represents v stored)
    (inside : index < a.length) : a.set index v = .ok (a.replaced index stored) :=
  set_eq_ok_iff.mpr ⟨stored, ValueType.admit_eq_ok_iff.mpr represents, inside, rfl⟩

theorem get_of_outside (beyond : a.length ≤ index) :
    a.get index = .error (.indexOutOfRange index a.length) := by
  simp only [get, List.getElem?_eq_none beyond]

theorem get_of_getElem? (here : a.elements[index]? = some stored) : a.get index = .ok stored := by
  simp only [get, here]

/-- Replacing an element by itself changes nothing. -/
theorem replaced_of_getElem? (here : a.elements[index]? = some stored) :
    a.replaced index stored = a := by
  obtain ⟨inside, same⟩ := List.getElem?_eq_some_iff.mp here
  subst same
  simp only [replaced, List.set_getElem_self]

end TypedArray

namespace Codec

variable {codec : Codec V} {stored : Value} {r : V} {thrown : Thrown V}

theorem deliver_ok_eq_found_iff :
    codec.deliver .ofFault (.ok stored) = .found r ↔ codec.toEngine stored = .ok r := by
  cases given : codec.toEngine stored <;>
    simp [deliver, Except.bind, given, conclude, throw]

theorem deliver_ok_eq_thrown_iff :
    codec.deliver .ofFault (.ok stored) = .thrown thrown ↔
      ∃ fault, codec.toEngine stored = .error fault ∧ thrown = codec.throwing (.ofFault fault) := by
  cases given : codec.toEngine stored <;>
    simp [deliver, Except.bind, given, conclude, throw, eq_comm]

end Codec

namespace Adapter

variable {w : World σ V} {a : Adapter V} {array : TypedArray} {index : UInt32} {v r : V}
  {value stored : Value}

/-- A read of an element answers it as the engine is given it, and leaves every
object as it is. -/
theorem getIndexed_of_found (found : w.object? a.object.id = some (.array array))
    (entry : Entry σ V) (index : UInt32) :
    let read := a.getIndexed entry index w
    read.value = a.codec.deliver .ofFault (array.get index.toNat) ∧
      ∀ o, read.world.object? o = w.object? o := by
  have kind : (w.surface a.object).kind = .array := by
    rw [World.surface, found]
    rfl
  obtain ⟨answer, unmoved⟩ := callObject_of_get found index.toNat entry
  rw [getIndexed_of_array kind]
  simp only [answer, true_and]
  exact unmoved

/-- A value that the codec does not give is not written. -/
theorem setIndexed_of_unread {fault : Fault}
    (found : w.object? a.object.id = some (.array array))
    (unread : a.codec.fromEngine v = .error fault) (entry : Entry σ V) :
    a.setIndexed entry index v w = ⟨a.codec.throw (.ofFault fault), [], w⟩ := by
  simp only [setIndexed_of_array found, unread]

/-- What the array keeps of a value is answered as the engine is given it. -/
theorem setIndexed_of_represents (found : w.object? a.object.id = some (.array array))
    (read : a.codec.fromEngine v = .ok value)
    (represents : array.elementType.Represents value stored) (inside : index.toNat < array.length)
    (entry : Entry σ V) :
    let write := a.setIndexed entry index v w
    write.value = a.codec.deliver .ofFault (.ok stored) ∧
      ∀ o, write.world.object? o =
        if o = a.object.id then some (.array (array.replaced index.toNat stored))
        else w.object? o := by
  have made := TypedArray.set_of_represents represents inside
  simp only [setIndexed_of_array found, read]
  constructor
  · rw [(setElement_of_stored found made).1, TypedArray.replaced, TypedArray.get_set inside]
  · exact (setElement_of_stored found made).2

/-- What the array refuses is raised, and every object stays as it is. -/
theorem setIndexed_of_refused {fault : Fault}
    (found : w.object? a.object.id = some (.array array))
    (read : a.codec.fromEngine v = .ok value)
    (refused : array.set index.toNat value = .error fault) (entry : Entry σ V) :
    let write := a.setIndexed entry index v w
    write.value = a.codec.throw (.ofFault fault) ∧ ∀ o, write.world.object? o = w.object? o := by
  simp only [setIndexed_of_array found, read]
  exact setElement_of_refused found refused

/-- An element that is written as the engine was given it stays as it is. -/
theorem setIndexed_of_held (found : w.object? a.object.id = some (.array array))
    (here : array.elements[index.toNat]? = some stored) (holds : array.elementType.Holds stored)
    (given : a.codec.toEngine stored = .ok r) (back : a.codec.fromEngine v = .ok stored)
    (entry : Entry σ V) :
    let write := a.setIndexed entry index v w
    write.value = .found r ∧ ∀ o, write.world.object? o = w.object? o := by
  obtain ⟨inside, _⟩ := List.getElem?_eq_some_iff.mp here
  obtain ⟨answer, after⟩ := setIndexed_of_represents found back holds.represents inside entry
  refine ⟨answer.trans (Codec.deliver_ok_eq_found_iff.mpr given), ?_⟩
  intro o
  rw [after, TypedArray.replaced_of_getElem? here]
  by_cases same : o = a.object.id
  · rw [if_pos same, same, found]
  · rw [if_neg same]

end Adapter

/-! ## Writes and reads of one element -/

/-- What a write of a value to an element of an array does, and a read of that
element. -/
structure ElementAccess (entry : Entry σ V) (a : Adapter V) (array : TypedArray) (index : UInt32)
    (v : V) (w : World σ V) : Prop where
  /-- A write answers a value exactly if the engine gives one that the array can
  be given, at an index that it has, and takes what the array keeps of it. -/
  answers : ∀ r, (a.setIndexed entry index v w).value = .found r ↔ ∃ value stored,
    a.codec.fromEngine v = .ok value ∧ array.elementType.Takes value ∧
      index.toNat < array.length ∧ array.elementType.Represents value stored ∧
      a.codec.toEngine stored = .ok r
  /-- Such a write keeps the value in its element, and changes nothing else. A
  read answers alike, and so does a write of that answer, which changes nothing
  if the engine gives back what the array keeps. -/
  keeps : ∀ r value, (a.setIndexed entry index v w).value = .found r →
    a.codec.fromEngine v = .ok value →
    let after := (a.setIndexed entry index v w).world
    ∃ stored changed, array.elementType.Represents value stored ∧
      a.codec.toEngine stored = .ok r ∧
      after.object? a.object.id = some (.array changed) ∧
      changed.elementType = array.elementType ∧ changed.length = array.length ∧
      changed.elements[index.toNat]? = some stored ∧
      (∀ other, other ≠ index.toNat → changed.elements[other]? = array.elements[other]?) ∧
      (∀ o, o ≠ a.object.id → after.object? o = w.object? o) ∧
      (a.getIndexed entry index after).value = .found r ∧
      (a.codec.fromEngine r = .ok stored →
        let again := a.setIndexed entry index r after
        again.value = .found r ∧ ∀ o, again.world.object? o = after.object? o)
  /-- A value of a wrong type is refused as such, whatever the index. -/
  wrongType : ∀ value, a.codec.fromEngine v = .ok value → ¬ array.elementType.Takes value →
    (a.setIndexed entry index v w).value =
      a.codec.throw (.fault (.invalidCast value.label array.elementType.display))
  /-- Any other value is refused for an index that the array has not. -/
  wrongIndex : ∀ value, a.codec.fromEngine v = .ok value → array.elementType.Takes value →
    array.length ≤ index.toNat → (a.setIndexed entry index v w).value =
      a.codec.throw (.fault (.indexOutOfRange index.toNat array.length))
  /-- So is a read. -/
  readOutside : array.length ≤ index.toNat → (a.getIndexed entry index w).value =
    a.codec.throw (.fault (.indexOutOfRange index.toNat array.length))
  /-- A read of an index that the array has fails only if the engine does not
  take the element. -/
  readInside : index.toNat < array.length →
    ∃ stored, array.elements[index.toNat]? = some stored ∧
      (∀ r, (a.getIndexed entry index w).value = .found r ↔ a.codec.toEngine stored = .ok r) ∧
      ∀ thrown, (a.getIndexed entry index w).value = .thrown thrown ↔ ∃ fault,
        a.codec.toEngine stored = .error fault ∧ thrown = a.codec.throwing (.ofFault fault)

section

variable {w : World σ V} {a : Adapter V} {array : TypedArray}

/-- A write that answers a value was given one by the engine, of which the array
keeps something. -/
theorem Adapter.exists_represents_of_answered {entry : Entry σ V} {index : UInt32} {v r : V}
    (found : w.object? a.object.id = some (.array array))
    (answered : (a.setIndexed entry index v w).value = .found r) :
    ∃ value stored, a.codec.fromEngine v = .ok value ∧
      array.elementType.Represents value stored ∧ index.toNat < array.length ∧
      a.codec.toEngine stored = .ok r := by
  cases read : a.codec.fromEngine v with
  | error fault =>
    rw [Adapter.setIndexed_of_unread found read entry] at answered
    cases answered
  | ok value =>
    by_cases takes : array.elementType.Takes value
    · rcases Nat.lt_or_ge index.toNat array.length with inside | beyond
      · obtain ⟨stored, represents⟩ := ValueType.takes_iff_exists_represents.mp takes
        obtain ⟨answer, _⟩ := Adapter.setIndexed_of_represents found read represents inside entry
        have given := Codec.deliver_ok_eq_found_iff.mp (answer.symm.trans answered)
        exact ⟨value, stored, rfl, represents, inside, given⟩
      · have refused := TypedArray.set_of_outside takes beyond
        cases (Adapter.setIndexed_of_refused found read refused entry).1.symm.trans answered
    · have refused : array.set index.toNat value = _ := TypedArray.set_of_not_takes takes
      cases (Adapter.setIndexed_of_refused found read refused entry).1.symm.trans answered

/-- A write to an array answers what the array keeps of the value, a read
answers the same, and to write that answer changes nothing. The type of the
value is looked at before the index. -/
theorem elements_are_written_and_read (found : w.object? a.object.id = some (.array array))
    (entry : Entry σ V) (index : UInt32) (v : V) : ElementAccess entry a array index v w where
  answers := by
    intro r
    constructor
    · intro answered
      obtain ⟨value, stored, read, represents, inside, given⟩ :=
        Adapter.exists_represents_of_answered found answered
      have takes := ValueType.takes_iff_exists_represents.mpr ⟨stored, represents⟩
      exact ⟨value, stored, read, takes, inside, represents, given⟩
    · rintro ⟨value, stored, read, _, inside, represents, given⟩
      obtain ⟨answer, _⟩ := Adapter.setIndexed_of_represents found read represents inside entry
      exact answer.trans (Codec.deliver_ok_eq_found_iff.mpr given)
  keeps := by
    intro r value answered read after
    obtain ⟨value, stored, read', represents, inside, given⟩ :=
      Adapter.exists_represents_of_answered found answered
    cases read.symm.trans read'
    obtain ⟨_, stores⟩ := Adapter.setIndexed_of_represents found read represents inside entry
    have kept : after.object? a.object.id = some (.array (array.replaced index.toNat stored)) :=
      (stores a.object.id).trans (if_pos rfl)
    have here : (array.replaced index.toNat stored).elements[index.toNat]? = some stored :=
      List.getElem?_set_self inside
    refine ⟨stored, array.replaced index.toNat stored, represents, given, kept, rfl,
      List.length_set, here, ?_, ?_, ?_, ?_⟩
    · intro other ne
      exact List.getElem?_set_ne (Ne.symm ne)
    · intro o ne
      exact (stores o).trans (if_neg ne)
    · obtain ⟨answer, _⟩ := Adapter.getIndexed_of_found kept entry index
      rw [answer, TypedArray.get_of_getElem? here]
      exact Codec.deliver_ok_eq_found_iff.mpr given
    · intro back
      exact Adapter.setIndexed_of_held kept here represents.holds given back entry
  wrongType := by
    intro value read refuses
    exact (Adapter.setIndexed_of_refused found read (TypedArray.set_of_not_takes refuses) entry).1
  wrongIndex := by
    intro value read takes beyond
    exact (Adapter.setIndexed_of_refused found read (TypedArray.set_of_outside takes beyond)
      entry).1
  readOutside := by
    intro beyond
    obtain ⟨answer, _⟩ := Adapter.getIndexed_of_found found entry index
    rw [answer, TypedArray.get_of_outside beyond]
    rfl
  readInside := by
    intro inside
    obtain ⟨stored, here⟩ : ∃ stored, array.elements[index.toNat]? = some stored :=
      ⟨_, List.getElem?_eq_getElem inside⟩
    obtain ⟨answer, _⟩ := Adapter.getIndexed_of_found found entry index
    rw [TypedArray.get_of_getElem? here] at answer
    refine ⟨stored, here, ?_, ?_⟩
    · intro r
      rw [answer]
      exact Codec.deliver_ok_eq_found_iff
    · intro thrown
      rw [answer]
      exact Codec.deliver_ok_eq_thrown_iff

/-- An int becomes a long in an array of longs and is answered and read as one,
null becomes zero, and a text is refused for its type even past the end. -/
theorem longs_are_written_and_read :
    let array : TypedArray := ⟨.long, [.long 1, .long 2]⟩
    let w : World Unit Value := (World.empty.addObject (.array array)).2
    let a : Adapter Value :=
      { object := ⟨0, array.typeName⟩, codec := .direct, options := .unset, trampoline := .bound }
    w.object? 0 = some (.array array) ∧
      (a.setIndexed none 0 (.int 5) w).value = .found (.long 5) ∧
      (a.getIndexed none 0 (a.setIndexed none 0 (.int 5) w).world).value = .found (.long 5) ∧
      (a.setIndexed none 1 .null w).value = .found (.long 0) ∧
      (a.setIndexed none 2 (.string "x") w).value =
        a.codec.throw (.fault (.invalidCast "String" "Int64")) ∧
      (a.setIndexed none 2 (.int 5) w).value = a.codec.throw (.fault (.indexOutOfRange 2 2)) := by
  intro array w a
  have found : w.object? a.object.id = some (.array array) := rfl
  have widens : array.elementType.Takes (.int 5) := by
    intro source type
    cases type
    rfl
  have narrow : ¬ array.elementType.Takes (.string "x") := by
    intro takes
    cases takes .string rfl
  have written := elements_are_written_and_read found none 0 (.int 5)
  have nulled := elements_are_written_and_read found none 1 .null
  have answered := (written.answers (.long 5)).mpr ⟨.int 5, .long 5, rfl, widens, by decide,
    .widened rfl rfl rfl rfl, rfl⟩
  obtain ⟨_, _, _, _, _, _, _, _, _, _, read, _⟩ := written.keeps _ (.int 5) answered rfl
  refine ⟨found, answered, read, ?_, ?_, ?_⟩
  · exact (nulled.answers (.long 0)).mpr ⟨.null, .long 0, rfl, nofun, by decide, .null, rfl⟩
  · exact (elements_are_written_and_read found none 2 (.string "x")).wrongType _ rfl narrow
  · exact (elements_are_written_and_read found none 2 (.int 5)).wrongIndex _ rfl widens (by decide)

end

end Membrane
