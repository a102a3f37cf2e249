import Membrane.Proofs.Conversion
import Membrane.Proofs.NamedAccess

/-!
# The first property of a name

The surface of an instance is searched for the first property of a name, whatever
its accessors, and a call for the first getter or setter, whatever its property.
An access through an adapter looks at the surface first and calls only where the
described property has the accessor, so both searches end at one declaration:
that property decides what may be read and written, for which type a value is
converted, and what runs (`first_property_is_served`).
-/

namespace Membrane

variable {σ V : Type}

/-! ## Values for a slot -/

/-- A slot of a declared type takes a value as it is: null, or a value of a type
that can be assigned to it. -/
def ValueType.Fits (declared : ValueType) (value : Value) : Prop :=
  ∀ type, value.type? = some type → declared.isAssignableFrom type = true

theorem ValueType.fits_null (declared : ValueType) : declared.Fits .null := by
  intro type typed
  cases typed

theorem ValueType.fits_any (value : Value) : ValueType.any.Fits value := by
  intro type _
  rfl

/-- A conversion gives a value that fits the type that it was asked for. -/
theorem ValueType.fits_of_changeType {declared : ValueType} {value converted : Value}
    (gives : value.changeType declared = .ok converted) : declared.Fits converted := by
  by_cases null : value = .null
  · rw [Value.changeType_of_spared (Or.inl null), null] at gives
    cases gives
    exact declared.fits_null
  · by_cases any : declared = .any
    · rw [any]
      exact fits_any converted
    · intro type typed
      rw [Value.type?_of_changeType null any gives] at typed
      cases typed
      simp [isAssignableFrom]

namespace Codec

variable {codec : Codec V} {v : V} {declared : ValueType} {value : Value}
  {outcome : Except Fault Value}

/-- A value that fits goes to the slot as it is, and nothing is coerced. -/
theorem converts_iff_of_fits (read : codec.fromEngine v = .ok value) (fits : declared.Fits value) :
    codec.Converts v declared outcome ↔ outcome = .ok value := by
  constructor
  · intro converts
    cases converts with
    | unread failed => cases read.symm.trans failed
    | null read' => exact read'.symm.trans read
    | assignable read' => exact read'.symm.trans read
    | coerced read' typed unfit =>
      cases read.symm.trans read'
      cases unfit.symm.trans (fits _ typed)
  · rintro rfl
    cases typed : value.type? with
    | some type => exact .assignable read typed (fits type typed)
    | none =>
      cases value with
      | null => exact .null read
      | _ => cases typed

/-- A value that does not fit goes to the slot as it is coerced. -/
theorem converts_iff_of_not_fits (read : codec.fromEngine v = .ok value)
    (unfit : ¬ declared.Fits value) :
    codec.Converts v declared outcome ↔ codec.coerce value declared = outcome := by
  simp only [ValueType.Fits, not_forall] at unfit
  obtain ⟨type, typed, unassignable⟩ := unfit
  rw [Bool.not_eq_true] at unassignable
  constructor
  · intro converts
    cases converts with
    | unread failed => cases read.symm.trans failed
    | null read' =>
      cases read.symm.trans read'
      cases typed
    | assignable read' typed' assignable =>
      cases read.symm.trans read'
      cases typed.symm.trans typed'
      cases unassignable.symm.trans assignable
    | coerced read' _ _ gives =>
      cases read.symm.trans read'
      exact gives
  · exact .coerced read typed unassignable

/-- What the conversion of host values makes of a value fits the slot. -/
theorem Converts.fits (converts : codec.Converts v declared (.ok value))
    (standard : codec.coerce = Value.changeType) : declared.Fits value := by
  cases converts with
  | null => exact declared.fits_null
  | assignable _ typed assignable =>
    intro type typed'
    cases typed.symm.trans typed'
    exact assignable
  | coerced _ _ _ gives =>
    rw [standard] at gives
    exact ValueType.fits_of_changeType gives

end Codec

/-! ## The members that a trace runs itself -/

/-- A member runs directly inside a call of a trace. What it runs in turn does
not count. -/
def RunsItself (trace : List (Span σ V)) (slot : Slot) (args : List Value) : Prop :=
  ∃ call ∈ trace, ∃ member ∈ call.inner, ∃ object, member.event = .ran object slot args

section

variable {entry : Entry σ V} {ref : ObjectRef} {call : HostCall} {w : World σ V} {state : σ}
  {c : HostClass σ (Request σ V) (Answer σ V)} {lease borrowed : Lease}
  {selection : Selection σ (Request σ V) (Answer σ V)} {fault : Fault} {slot : Slot}
  {args : List Value}

theorem not_runsItself_nil : ¬ RunsItself ([] : List (Span σ V)) slot args := by
  rintro ⟨call, mem, _⟩
  cases mem

/-- A call that is served runs the member that serves it, and no other itself. -/
theorem World.ServedBy.runsItself_iff
    (served : w.ServedBy entry ref call state borrowed selection) :
    RunsItself (callObject entry ref call w).trace slot args ↔
      slot = selection.slot ∧ args = selection.args := by
  obtain ⟨ended, runs⟩ := served
  rw [runs]
  constructor
  · rintro ⟨called, mem, member, inside, object, ran⟩
    cases List.mem_singleton.mp mem
    cases List.mem_singleton.mp inside
    cases ran
    exact ⟨rfl, rfl⟩
  · rintro ⟨rfl, rfl⟩
    exact ⟨_, List.mem_singleton_self _, _, List.mem_singleton_self _, ref.id, rfl⟩

/-- A call that is refused runs no member. -/
theorem World.RefusedBy.not_runsItself (refused : w.RefusedBy entry ref call fault) :
    ¬ RunsItself (callObject entry ref call w).trace slot args := by
  rw [show callObject entry ref call w = _ from refused]
  rintro ⟨called, mem, member, inside, _⟩
  cases List.mem_singleton.mp mem
  cases inside

/-- A member runs for a call of an instance only if it was found for it. -/
theorem World.eq_of_runsItself (found : w.object? ref.id = some (.ofClass c state lease))
    (selected : c.select call = .ok selection)
    (runs : RunsItself (callObject entry ref call w).trace slot args) :
    slot = selection.slot ∧ args = selection.args := by
  cases lent : selection.closure.borrow? lease with
  | none => exact absurd runs (refusedBy_inUse found selected lent).not_runsItself
  | some borrowed => exact (servedBy_of_select found selected lent).runsItself_iff.mp runs

theorem exists_called (entry : Entry σ V) (ref : ObjectRef) (call : HostCall) (w : World σ V) :
    ∀ span ∈ (callObject entry ref call w).trace,
      ∃ outcome, span.event = .called ref.id call outcome := by
  intro span mem
  cases List.mem_singleton.mp mem
  exact ⟨_, rfl⟩

end

/-! ## How an access to an instance ends -/

section

variable {entry : Entry σ V} {a : Adapter V} {name : String} {v : V} {w : World σ V} {state : σ}
  {c : HostClass σ (Request σ V) (Answer σ V)} {lease : Lease}

theorem World.property_of_class {ref : ObjectRef}
    (found : w.object? ref.id = some (.ofClass c state lease)) (name : String) :
    (w.surface ref).property name = c.property name := by
  rw [surface_of_class found]
  rfl

namespace HostClass

variable {position : Nat} {declaredType : ValueType} {value : Value}
  {getter : Option (σ → List Value → Routine σ V (Except Fault Value))}
  {setter : Option (σ → List Value → Routine σ V (σ × Except Fault Value))}

/-- What an instance describes of the first property of a name. -/
theorem FirstProperty.described {ref : ObjectRef}
    (property : c.FirstProperty name position declaredType getter setter)
    (found : w.object? ref.id = some (.ofClass c state lease)) :
    (w.surface ref).property name =
      some ⟨name, declaredType, getter.isSome, setter.isSome⟩ := by
  rw [World.property_of_class found]
  exact property_eq_some_iff.mpr ⟨position, getter, setter, property, rfl⟩

end HostClass

/-- How a read of a name ends at an instance: there is no property, or its first
one cannot be read, or the instance is called for the getter of that one. -/
inductive ReadEnds (entry : Entry σ V) (a : Adapter V) (name : String) (w : World σ V)
    (c : HostClass σ (Request σ V) (Answer σ V)) (read : Outcome σ V (AccessResult V)) : Prop where
  | absent (ends : read = ⟨.absent, [], w⟩)
  | unreadable {position declaredType setter}
      (property : c.FirstProperty name position declaredType none setter)
      (ends : read = ⟨a.codec.throw (.notReadable name), [], w⟩)
  | readable {position declaredType run setter}
      (property : c.FirstProperty name position declaredType (some run) setter)
      (ends : let called := callObject entry a.object (.getProperty name) w
        read = ⟨a.codec.deliver .ofFault called.value, called.trace, called.world⟩)

theorem Adapter.readEnds (found : w.object? a.object.id = some (.ofClass c state lease))
    (entry : Entry σ V) (name : String) :
    ReadEnds entry a name w c (a.getProperty entry name w) := by
  cases known : (w.surface a.object).property name with
  | none => exact .absent (getProperty_of_unknown known)
  | some info =>
    rw [World.property_of_class found] at known
    obtain ⟨position, getter, setter, property, _⟩ := HostClass.property_eq_some_iff.mp known
    cases getter with
    | none =>
      exact .unreadable property (getProperty_of_unreadable (property.described found) rfl)
    | some run => exact .readable property (getProperty_of_readable (property.described found) rfl)

/-- How a write of a name ends at an instance: there is no property, or the value
is not converted for its first one, or that one cannot be written, or the
instance is called for the setter of that one. -/
inductive WriteEndsAt (entry : Entry σ V) (a : Adapter V) (name : String) (v : V) (w : World σ V)
    (c : HostClass σ (Request σ V) (Answer σ V)) (write : Outcome σ V (AccessResult V)) :
    Prop where
  | unknown (ends : write =
      ⟨if a.options.rejectUnknown then a.codec.throw (.unknownMember name) else .absent, [], w⟩)
  | unconverted {position declaredType getter setter fault}
      (property : c.FirstProperty name position declaredType getter setter)
      (refused : a.codec.Converts v declaredType (.error fault))
      (ends : write = ⟨a.codec.throw (.ofFault fault), [], w⟩)
  | readOnly {position declaredType getter value}
      (property : c.FirstProperty name position declaredType getter none)
      (converted : a.codec.Converts v declaredType (.ok value))
      (ends : write = ⟨a.codec.throw (.notWritable name), [], w⟩)
  | writable {position declaredType getter run value}
      (property : c.FirstProperty name position declaredType getter (some run))
      (converted : a.codec.Converts v declaredType (.ok value))
      (ends : let called := callObject entry a.object (.setProperty name value) w
        write = ⟨match called.value with
          | .ok _ => .found v
          | .error fault => a.codec.throw (.ofFault fault), called.trace, called.world⟩)

theorem Adapter.writeEndsAt (found : w.object? a.object.id = some (.ofClass c state lease))
    (entry : Entry σ V) (name : String) (v : V) :
    WriteEndsAt entry a name v w c (a.setProperty entry name v w) := by
  cases known : (w.surface a.object).property name with
  | none => exact .unknown (setProperty_of_unknown known)
  | some info =>
    rw [World.property_of_class found] at known
    obtain ⟨position, getter, setter, property, _⟩ := HostClass.property_eq_some_iff.mp known
    have described := property.described found
    cases converts : a.codec.forSlot v info.declaredType with
    | error fault =>
      exact .unconverted property (Codec.forSlot_eq_iff.mp converts)
        (setProperty_of_unconverted described converts)
    | ok value =>
      have converted := Codec.forSlot_eq_iff.mp converts
      cases setter with
      | none => exact .readOnly property converted (setProperty_of_readOnly described converts rfl)
      | some run => exact .writable property converted (setProperty_of_writable described converts rfl)

/-- Where a value fits the first property of a name, a write is the same for every
coercion. -/
theorem Adapter.setProperty_of_fits {position : Nat} {declaredType : ValueType} {value : Value}
    {getter : Option (σ → List Value → Routine σ V (Except Fault Value))}
    {setter : Option (σ → List Value → Routine σ V (σ × Except Fault Value))}
    (found : w.object? a.object.id = some (.ofClass c state lease))
    (property : c.FirstProperty name position declaredType getter setter)
    (read : a.codec.fromEngine v = .ok value) (fits : declaredType.Fits value)
    (coerce : Value → ValueType → Except Fault Value) :
    setProperty entry { a with codec := { a.codec with coerce := coerce } } name v w =
      setProperty entry a name v w := by
  let other : Adapter V := { a with codec := { a.codec with coerce := coerce } }
  have known : (w.surface a.object).property name = _ := property.described found
  have known' : (w.surface other.object).property name = _ := property.described found
  have converted : a.codec.forSlot v declaredType = .ok value :=
    Codec.forSlot_eq_iff.mpr ((Codec.converts_iff_of_fits read fits).mpr rfl)
  have read' : other.codec.fromEngine v = .ok value := read
  have converted' : other.codec.forSlot v declaredType = .ok value :=
    Codec.forSlot_eq_iff.mpr ((Codec.converts_iff_of_fits read' fits).mpr rfl)
  cases setter with
  | none =>
    rw [setProperty_of_readOnly known converted rfl, setProperty_of_readOnly known' converted' rfl]
    rfl
  | some run =>
    have ends : other.setProperty entry name v w = _ :=
      setProperty_of_writable known' converted' rfl
    rw [show a.setProperty entry name v w = _ from setProperty_of_writable known converted rfl]
    exact ends

/-- What is thrown for an outcome of the host is a fault. -/
theorem Codec.eq_fault_of_deliver {codec : Codec V} {outcome : Except Fault Value}
    {thrown : Thrown V} (throws : codec.deliver .ofFault outcome = .thrown thrown) :
    ∃ fault, thrown.error = .fault fault := by
  cases delivered : outcome.bind codec.toEngine with
  | ok r =>
    rw [deliver, delivered] at throws
    cases throws
  | error fault =>
    rw [deliver, delivered] at throws
    cases throws
    exact ⟨fault.cause, rfl⟩

/-! ## Accesses of an instance by name -/

/-- What an adapter does with a name at an instance of a class. -/
structure ServesFirstProperty (entry : Entry σ V) (a : Adapter V) (name : String) (v : V)
    (w : World σ V) (c : HostClass σ (Request σ V) (Answer σ V)) (state : σ) (lease : Lease)
    (read write : Outcome σ V (AccessResult V)) : Prop where
  /-- All that an access does itself is to call the object. -/
  calls : ∀ span ∈ read.trace ++ write.trace,
    ∃ call outcome, span.event = .called a.object.id call outcome
  /-- A read runs no member itself but the getter of the first property. -/
  getters : ∀ slot args, RunsItself read.trace slot args → ∃ position declaredType run setter,
    c.FirstProperty name position declaredType (some run) setter ∧ slot = .getter position ∧
      args = []
  /-- It runs this getter, unless the instance is being written. -/
  readable : ∀ {position declaredType run setter},
    c.FirstProperty name position declaredType (some run) setter →
    let called := callObject entry a.object (.getProperty name) w
    read = ⟨a.codec.deliver .ofFault called.value, called.trace, called.world⟩ ∧
      (∀ borrowed, lease.read? = some borrowed → w.ServedBy entry a.object (.getProperty name)
        state borrowed ⟨.getter position, .reads run, []⟩) ∧
      (lease.read? = none → w.RefusedBy entry a.object (.getProperty name) (.inUse c.name))
  /-- A first property without a getter is not readable, and no other is. -/
  unreadable : ∀ {position declaredType setter},
    c.FirstProperty name position declaredType none setter →
    read = ⟨a.codec.throw (.notReadable name), [], w⟩
  notReadable : ∀ {other exception}, read.value = .thrown ⟨.notReadable other, exception⟩ →
    ∃ position declaredType setter, c.FirstProperty name position declaredType none setter
  /-- A write runs no member itself but the setter of the first property, which is
  given the value as it is converted for the type of that property. -/
  setters : ∀ slot args, RunsItself write.trace slot args →
    ∃ position declaredType getter run value,
      c.FirstProperty name position declaredType getter (some run) ∧
        a.codec.Converts v declaredType (.ok value) ∧ slot = .setter position ∧ args = [value]
  /-- It runs this setter, unless the instance is in use. -/
  writable : ∀ {position declaredType getter run value},
    c.FirstProperty name position declaredType getter (some run) →
    a.codec.Converts v declaredType (.ok value) →
    let called := callObject entry a.object (.setProperty name value) w
    write = ⟨match called.value with
        | .ok _ => .found v
        | .error fault => a.codec.throw (.ofFault fault), called.trace, called.world⟩ ∧
      (lease = .free → w.ServedBy entry a.object (.setProperty name value) state .writer
        ⟨.setter position, .writes run, [value]⟩) ∧
      (lease ≠ .free → w.RefusedBy entry a.object (.setProperty name value) (.inUse c.name))
  /-- A value that is not converted for the type of the first property is refused. -/
  unconverted : ∀ {position declaredType getter setter fault},
    c.FirstProperty name position declaredType getter setter →
    a.codec.Converts v declaredType (.error fault) →
    write = ⟨a.codec.throw (.ofFault fault), [], w⟩
  /-- A first property without a setter is not writable, and no other is. -/
  readOnly : ∀ {position declaredType getter value},
    c.FirstProperty name position declaredType getter none →
    a.codec.Converts v declaredType (.ok value) →
    write = ⟨a.codec.throw (.notWritable name), [], w⟩
  notWritable : ∀ {other exception}, write.value = .thrown ⟨.notWritable other, exception⟩ →
    ∃ position declaredType getter value,
      c.FirstProperty name position declaredType getter none ∧
        a.codec.Converts v declaredType (.ok value)
  /-- A value that fits the first property is converted to itself, which is what a
  setter is given, and the write is the same for every coercion. -/
  fitting : ∀ {position declaredType getter setter value},
    c.FirstProperty name position declaredType getter setter →
    a.codec.fromEngine v = .ok value → declaredType.Fits value →
    a.codec.Converts v declaredType (.ok value) ∧
      (∀ slot args, RunsItself write.trace slot args → args = [value]) ∧
      ∀ coerce, Adapter.setProperty entry { a with codec := { a.codec with coerce := coerce } }
        name v w = write
  /-- Any other value is converted as it is coerced to the type of that property,
  and that is what a setter is given. -/
  unfitting : ∀ {position declaredType getter setter value},
    c.FirstProperty name position declaredType getter setter →
    a.codec.fromEngine v = .ok value → ¬ declaredType.Fits value →
    (∀ outcome, a.codec.Converts v declaredType outcome ↔
      a.codec.coerce value declaredType = outcome) ∧
      ∀ slot args, RunsItself write.trace slot args →
        ∃ given, a.codec.coerce value declaredType = .ok given ∧ args = [given]
  /-- Where values are coerced by conversion, a setter is given what fits. -/
  typed : a.codec.coerce = Value.changeType → ∀ slot args, RunsItself write.trace slot args →
    ∃ position declaredType getter setter value,
      c.FirstProperty name position declaredType getter setter ∧ declaredType.Fits value ∧
        slot = .setter position ∧ args = [value]

/-- The setter that a write of a name runs, and what it is given. -/
theorem Adapter.exists_setter_of_runsItself
    (found : w.object? a.object.id = some (.ofClass c state lease)) {slot : Slot}
    {args : List Value} (runs : RunsItself (a.setProperty entry name v w).trace slot args) :
    ∃ position declaredType getter run value,
      c.FirstProperty name position declaredType getter (some run) ∧
        a.codec.Converts v declaredType (.ok value) ∧ slot = .setter position ∧ args = [value] := by
  cases Adapter.writeEndsAt found entry name v with
  | unknown ends | unconverted _ _ ends | readOnly _ _ ends =>
    rw [ends] at runs
    exact absurd runs not_runsItself_nil
  | writable property converted ends =>
    rw [ends] at runs
    obtain ⟨rfl, rfl⟩ := World.eq_of_runsItself found property.select_setProperty runs
    exact ⟨_, _, _, _, _, property, converted, rfl, rfl⟩

/-- What a setter is given is converted for the type of the first property. -/
theorem Adapter.exists_given_of_runsItself {position : Nat} {declaredType : ValueType}
    {getter : Option (σ → List Value → Routine σ V (Except Fault Value))}
    {setter : Option (σ → List Value → Routine σ V (σ × Except Fault Value))}
    (found : w.object? a.object.id = some (.ofClass c state lease))
    (property : c.FirstProperty name position declaredType getter setter) {slot : Slot}
    {args : List Value} (runs : RunsItself (a.setProperty entry name v w).trace slot args) :
    ∃ given, a.codec.Converts v declaredType (.ok given) ∧ args = [given] := by
  obtain ⟨_, declaredType', _, _, given, property', converted, _, rfl⟩ :=
    exists_setter_of_runsItself found runs
  -- The surface describes one property of the name, which has one type.
  have described := (property.described found).symm.trans (property'.described found)
  have same : declaredType = declaredType' :=
    congrArg PropertyInfo.declaredType (Option.some.inj described)
  subst same
  exact ⟨given, converted, rfl⟩

/-- An adapter serves the first property of a name and no other. Its getter decides
whether the name is readable and is what a read runs, and its setter whether the
name is writable and is what a write runs. A value is converted for the type of
this property, so that a setter is given what fits its own type if coercion is
conversion. -/
theorem first_property_is_served
    (found : w.object? a.object.id = some (.ofClass c state lease)) (entry : Entry σ V)
    (name : String) (v : V) :
    ServesFirstProperty entry a name v w c state lease (a.getProperty entry name w)
      (a.setProperty entry name v w) where
  calls := by
    intro span mem
    rcases List.mem_append.mp mem with mem | mem
    · cases Adapter.readEnds found entry name with
      | absent ends | unreadable _ ends =>
        rw [ends] at mem
        cases mem
      | readable _ ends =>
        rw [ends] at mem
        exact ⟨_, exists_called entry a.object _ w span mem⟩
    · cases Adapter.writeEndsAt found entry name v with
      | unknown ends | unconverted _ _ ends | readOnly _ _ ends =>
        rw [ends] at mem
        cases mem
      | writable _ _ ends =>
        rw [ends] at mem
        exact ⟨_, exists_called entry a.object _ w span mem⟩
  getters := by
    intro slot args runs
    cases Adapter.readEnds found entry name with
    | absent ends | unreadable _ ends =>
      rw [ends] at runs
      exact absurd runs not_runsItself_nil
    | readable property ends =>
      rw [ends] at runs
      obtain ⟨rfl, rfl⟩ := World.eq_of_runsItself found property.select_getProperty runs
      exact ⟨_, _, _, _, property, rfl, rfl⟩
  readable := by
    intro position declaredType run setter property called
    have selected := property.select_getProperty
    refine ⟨Adapter.getProperty_of_readable (property.described found) rfl, ?_, ?_⟩
    · intro borrowed lent
      exact World.servedBy_of_select found selected lent
    · intro taken
      exact World.refusedBy_inUse found selected taken
  unreadable property := Adapter.getProperty_of_unreadable (property.described found) rfl
  notReadable := by
    intro other exception thrown
    cases Adapter.readEnds found entry name with
    | absent ends =>
      rw [ends] at thrown
      cases thrown
    | unreadable property _ => exact ⟨_, _, _, property⟩
    | readable _ ends =>
      rw [ends] at thrown
      obtain ⟨fault, isFault⟩ := Codec.eq_fault_of_deliver thrown
      cases isFault
  setters _ _ runs := Adapter.exists_setter_of_runsItself found runs
  writable := by
    intro position declaredType getter run value property converted called
    have selected : c.select (.setProperty name value) = _ := property.select_setProperty
    refine ⟨Adapter.setProperty_of_writable (property.described found)
      (Codec.forSlot_eq_iff.mpr converted) rfl, ?_, ?_⟩
    · rintro rfl
      exact World.servedBy_of_select found selected rfl
    · intro used
      exact World.refusedBy_inUse found selected (Lease.write?_eq_none used)
  unconverted property refused :=
    Adapter.setProperty_of_unconverted (property.described found)
      (Codec.forSlot_eq_iff.mpr refused)
  readOnly property converted :=
    Adapter.setProperty_of_readOnly (property.described found)
      (Codec.forSlot_eq_iff.mpr converted) rfl
  notWritable := by
    intro other exception thrown
    cases Adapter.writeEndsAt found entry name v with
    | unknown ends =>
      rw [ends] at thrown
      dsimp only at thrown
      split at thrown <;> cases thrown
    | unconverted _ _ ends =>
      rw [ends] at thrown
      cases thrown
    | readOnly property converted _ => exact ⟨_, _, _, _, property, converted⟩
    | writable _ _ ends =>
      rw [ends] at thrown
      dsimp only at thrown
      split at thrown <;> cases thrown
  fitting := by
    intro position declaredType getter setter value property read fits
    refine ⟨(Codec.converts_iff_of_fits read fits).mpr rfl, ?_,
      Adapter.setProperty_of_fits found property read fits⟩
    intro slot args runs
    obtain ⟨given, converted, rfl⟩ := Adapter.exists_given_of_runsItself found property runs
    cases (Codec.converts_iff_of_fits read fits).mp converted
    rfl
  unfitting := by
    intro position declaredType getter setter value property read unfit
    constructor
    · intro outcome
      exact Codec.converts_iff_of_not_fits read unfit
    · intro slot args runs
      obtain ⟨given, converted, rfl⟩ := Adapter.exists_given_of_runsItself found property runs
      exact ⟨given, (Codec.converts_iff_of_not_fits read unfit).mp converted, rfl⟩
  typed := by
    intro standard slot args runs
    obtain ⟨position, declaredType, getter, run, value, property, converted, ran, given⟩ :=
      Adapter.exists_setter_of_runsItself found runs
    exact ⟨position, declaredType, getter, _, value, property, converted.fits standard, ran, given⟩

end

/-- A class that declares a name three times: as a method, as an int that may only
be written, and as a text that may be read and written. -/
def layered : HostClass Nat (Request Nat Value) (Answer Nat Value) where
  name := "Layered"
  kind := .reference
  declarations := [
    .method "P" none fun state _ => .done (state, .ok .null),
    .property "P" .int none (some fun _ _ => .done (1, .ok .null)),
    .property "P" .string (some fun _ _ => .done (.ok (.string "x")))
      (some fun _ _ => .done (2, .ok .null))]
  indexer := none

/-- The name is not readable, although it has a getter; a text is refused, although
it fits the later property; and an int, which no engine has to coerce, runs the
setter that is declared first. -/
theorem layered_serves_first_property :
    let w : World Nat Value := (World.empty.addObject (.ofClass layered 0 .free)).2
    let a : Adapter Value :=
      { object := ⟨0, "Layered"⟩, codec := .strict, options := .unset, trampoline := .bound }
    w.object? 0 = some (.ofClass layered 0 .free) ∧
      a.getProperty none "P" w = ⟨a.codec.throw (.notReadable "P"), [], w⟩ ∧
      a.setProperty none "P" (.string "x") w =
        ⟨a.codec.throw (.fault (.native "refused String -> Int32")), [], w⟩ ∧
      RunsItself (a.setProperty none "P" (.int 5) w).trace (.setter 1) [.int 5] := by
  intro w a
  have found : w.object? a.object.id = some (.ofClass layered 0 .free) := rfl
  have first : layered.FirstProperty "P" 1 .int none (some fun _ _ => .done (1, .ok .null)) := by
    refine ⟨rfl, ?_⟩
    intro earlier lower d declared _
    have zero : earlier = 0 := by omega
    subst zero
    cases declared
    rfl
  have unfit : ¬ ValueType.int.Fits (.string "x") := by
    intro fits
    cases fits .string rfl
  have fits : ValueType.int.Fits (.int 5) := by
    intro type typed
    cases typed
    rfl
  have text := first_property_is_served found none "P" (.string "x")
  have int := first_property_is_served found none "P" (.int 5)
  refine ⟨found, text.unreadable first, ?_, ?_⟩
  · exact text.unconverted first (((text.unfitting first rfl unfit).1 _).mpr rfl)
  · obtain ⟨ends, served, _⟩ := int.writable first (int.fitting first rfl fits).1
    rw [ends]
    exact (served rfl).runsItself_iff.mpr ⟨rfl, rfl⟩

end Membrane
