import Membrane.Codec.Direct
import Membrane.Proofs.Description
import Membrane.Proofs.Leases

/-!
# Reading and writing by name

A write of a named property goes through stages: the name is looked up, the
value is converted for the declared type, the property is asked whether it may
be set, and only then the host is called (`setProperty_in_stages`). Whatever
ends a write before the last stage runs nothing and changes nothing.
-/

namespace Membrane

variable {σ V : Type}

/-! ## Conversion for a slot -/

namespace Codec

/-- What an engine value becomes on its way to a slot: it is read, left alone
where it is null or assignable, and coerced otherwise. -/
inductive Converts (codec : Codec V) (v : V) (declared : ValueType) : Except Fault Value → Prop where
  | unread {fault : Fault} (read : codec.fromEngine v = .error fault) :
      Converts codec v declared (.error fault)
  | null (read : codec.fromEngine v = .ok .null) : Converts codec v declared (.ok .null)
  | assignable {value : Value} {type : ValueType} (read : codec.fromEngine v = .ok value)
      (typed : value.type? = some type) (fits : declared.isAssignableFrom type = true) :
      Converts codec v declared (.ok value)
  | coerced {value : Value} {type : ValueType} {outcome : Except Fault Value}
      (read : codec.fromEngine v = .ok value) (typed : value.type? = some type)
      (unfit : declared.isAssignableFrom type = false)
      (gives : codec.coerce value declared = outcome) : Converts codec v declared outcome

variable {codec : Codec V} {v : V} {declared : ValueType} {outcome : Except Fault Value}

theorem forSlot_eq_iff : codec.forSlot v declared = outcome ↔ codec.Converts v declared outcome := by
  constructor
  · rintro rfl
    cases read : codec.fromEngine v with
    | error fault =>
      simp only [forSlot, read, bind, Except.bind]
      exact .unread read
    | ok value =>
      simp only [forSlot, read, bind, Except.bind]
      cases typed : value.type? with
      | none =>
        cases value with
        | null => exact .null read
        | _ => cases typed
      | some type =>
        by_cases fits : declared.isAssignableFrom type = true
        · simp only [fits, if_true]
          exact .assignable read typed fits
        · simp only [fits]
          exact .coerced read typed (Bool.eq_false_iff.mpr fits) rfl
  · intro converts
    cases converts with
    | unread read => simp only [forSlot, read, bind, Except.bind]
    | null read => simp only [forSlot, read, bind, Except.bind, Value.type?]
    | assignable read typed fits =>
      simp only [forSlot, read, bind, Except.bind, typed, fits, if_true]
    | coerced read typed unfit gives =>
      simp only [forSlot, read, bind, Except.bind, typed, unfit]
      exact gives

end Codec

/-! ## How a named access ends -/

namespace Adapter

variable {w : World σ V} {entry : Entry σ V} {a : Adapter V} {name : String} {v : V}
  {info : PropertyInfo} {value : Value} {fault : Fault}

theorem getProperty_of_unknown (unknown : (w.surface a.object).property name = none) :
    a.getProperty entry name w = ⟨.absent, [], w⟩ := by
  simp only [getProperty, bind, Act.bind, Act.look, List.nil_append, unknown]
  rfl

theorem getProperty_of_unreadable (known : (w.surface a.object).property name = some info)
    (unreadable : info.readable = false) :
    a.getProperty entry name w = ⟨a.codec.throw (.notReadable name), [], w⟩ := by
  simp only [getProperty, bind, Act.bind, Act.look, List.nil_append, known, unreadable]
  rfl

theorem getProperty_of_readable (known : (w.surface a.object).property name = some info)
    (readable : info.readable = true) :
    let called := callObject entry a.object (.getProperty name) w
    a.getProperty entry name w =
      ⟨a.codec.deliver .ofFault called.value, called.trace, called.world⟩ := by
  simp only [getProperty, bind, Act.bind, Act.look, List.nil_append, known, readable, if_true, pure,
    Act.pure, List.append_nil]

theorem setProperty_of_unknown (unknown : (w.surface a.object).property name = none) :
    a.setProperty entry name v w =
      ⟨if a.options.rejectUnknown then a.codec.throw (.unknownMember name) else .absent, [], w⟩ := by
  simp only [setProperty, bind, Act.bind, Act.look, List.nil_append, unknown, Options.contains,
    Bool.not_true, Bool.false_or]
  cases a.options.rejectUnknown <;> rfl

theorem setProperty_of_unconverted (known : (w.surface a.object).property name = some info)
    (refused : a.codec.forSlot v info.declaredType = .error fault) :
    a.setProperty entry name v w = ⟨a.codec.throw (.ofFault fault), [], w⟩ := by
  simp only [setProperty, bind, Act.bind, Act.look, List.nil_append, known, refused]
  rfl

theorem setProperty_of_readOnly (known : (w.surface a.object).property name = some info)
    (converted : a.codec.forSlot v info.declaredType = .ok value)
    (readOnly : info.writable = false) :
    a.setProperty entry name v w = ⟨a.codec.throw (.notWritable name), [], w⟩ := by
  simp only [setProperty, bind, Act.bind, Act.look, List.nil_append, known, converted, readOnly]
  rfl

theorem setProperty_of_writable (known : (w.surface a.object).property name = some info)
    (converted : a.codec.forSlot v info.declaredType = .ok value)
    (writable : info.writable = true) :
    let called := callObject entry a.object (.setProperty name value) w
    a.setProperty entry name v w =
      ⟨match called.value with
        | .ok _ => .found v
        | .error fault => a.codec.throw (.ofFault fault), called.trace, called.world⟩ := by
  simp only [setProperty, bind, Act.bind, Act.look, List.nil_append, known, converted, writable,
    if_true, pure, Act.pure, List.append_nil]
  cases (callObject entry a.object (.setProperty name value) w).value <;> rfl

/-- The stage at which a write ends: its name is unknown, the value is not
converted, the property may not be set, or the host faults or answers. -/
inductive WriteEnds (entry : Entry σ V) (a : Adapter V) (name : String) (v : V) (w : World σ V)
    (write : Outcome σ V (AccessResult V)) : Prop where
  | unknown (unknown : (w.surface a.object).property name = none)
      (ends : write =
        ⟨if a.options.rejectUnknown then a.codec.throw (.unknownMember name) else .absent, [], w⟩)
  | unconverted (info : PropertyInfo) (fault : Fault)
      (known : (w.surface a.object).property name = some info)
      (refused : a.codec.forSlot v info.declaredType = .error fault)
      (ends : write = ⟨a.codec.throw (.ofFault fault), [], w⟩)
  | readOnly (info : PropertyInfo) (value : Value)
      (known : (w.surface a.object).property name = some info)
      (converted : a.codec.forSlot v info.declaredType = .ok value)
      (readOnly : info.writable = false)
      (ends : write = ⟨a.codec.throw (.notWritable name), [], w⟩)
  | faulted (info : PropertyInfo) (value : Value) (fault : Fault)
      (known : (w.surface a.object).property name = some info)
      (converted : a.codec.forSlot v info.declaredType = .ok value)
      (writable : info.writable = true)
      (faults : (callObject entry a.object (.setProperty name value) w).value = .error fault)
      (ends : let called := callObject entry a.object (.setProperty name value) w
        write = ⟨a.codec.throw (.ofFault fault), called.trace, called.world⟩)
  | answered (value returned : Value)
      (answers : (callObject entry a.object (.setProperty name value) w).value = .ok returned)
      (ends : let called := callObject entry a.object (.setProperty name value) w
        write = ⟨.found v, called.trace, called.world⟩)

theorem setProperty_ends (entry : Entry σ V) (a : Adapter V) (name : String) (v : V)
    (w : World σ V) : WriteEnds entry a name v w (a.setProperty entry name v w) := by
  cases known : (w.surface a.object).property name with
  | none => exact .unknown known (setProperty_of_unknown known)
  | some info =>
    cases converted : a.codec.forSlot v info.declaredType with
    | error fault =>
      exact .unconverted info fault known converted (setProperty_of_unconverted known converted)
    | ok value =>
      cases allowed : info.writable with
      | false =>
        exact .readOnly info value known converted allowed
          (setProperty_of_readOnly known converted allowed)
      | true =>
        have ends : a.setProperty entry name v w = _ :=
          setProperty_of_writable known converted allowed
        cases outcome : (callObject entry a.object (.setProperty name value) w).value with
        | error fault =>
          simp only [outcome] at ends
          exact .faulted info value fault known converted allowed outcome ends
        | ok returned =>
          simp only [outcome] at ends
          exact .answered value returned outcome ends

end Adapter

/-! ## What a successful write runs -/

section

variable {c : HostClass σ (Request σ V) (Answer σ V)} {name : String} {value returned : Value}

/-- The member that serves a write is a setter, which is given the new value. -/
theorem HostClass.slot_of_select_setProperty {selection : Selection σ (Request σ V) (Answer σ V)}
    (selected : c.select (.setProperty name value) = .ok selection) :
    (∃ position, selection.slot = .setter position) ∧ selection.args = [value] := by
  rw [select_setProperty] at selected
  cases found : c.setter? name value with
  | none => rw [found] at selected; cases selected
  | some first =>
    rw [found] at selected
    cases selected
    obtain ⟨⟨d, position⟩, _, here⟩ := List.exists_of_findSome?_eq_some found
    cases d with
    | method => cases here
    | property own declaredType getter setter =>
      obtain ⟨run, _, rfl⟩ := Option.map_eq_some_iff.mp here
      exact ⟨⟨position, rfl⟩, rfl⟩

/-- What runs when a property is set: a setter of the class of an instance, or
the reply of a handwritten object. -/
def Span.Sets (span : Span σ V) (object : Nat) (name : String) (value : Value) : Prop :=
  (∃ position, span.event = .ran object (.setter position) [value]) ∨
    span.event = .replied object (.setProperty name value)

/-- A property that was set was set by one setter or one reply, and nothing else
ran. -/
theorem World.exists_sets_of_ok {w : World σ V} {entry : Entry σ V} {ref : ObjectRef}
    (succeeds : (callObject entry ref (.setProperty name value) w).value = .ok returned) :
    let called := callObject entry ref (.setProperty name value) w
    ∃ span, span.Sets ref.id name value ∧ called.trace =
      [⟨.called ref.id (.setProperty name value) called.value, w, called.world, [span]⟩] := by
  rcases w.call_cases ref (.setProperty name value) with
    ⟨fault, refusal⟩ | ⟨a, found⟩ | ⟨c, state, lease, borrowed, selection, found, selected, lent⟩
      | ⟨surface, replies, program, found, chosen⟩
  · rw [callObject_of_refusal refusal] at succeeds
    cases succeeds
  · rw [callObject_of_array found] at succeeds
    cases succeeds
  · have served : w.ServedBy entry ref (.setProperty name value) state borrowed selection :=
      World.servedBy_of_select found selected lent
    obtain ⟨ended, runs⟩ := served
    obtain ⟨⟨position, setter⟩, given⟩ := HostClass.slot_of_select_setProperty selected
    rw [setter, given] at runs
    rw [runs]
    exact ⟨⟨.ran ref.id (.setter position) [value], _, _, _⟩, Or.inl ⟨position, rfl⟩, rfl⟩
  · rw [callObject_of_replies found chosen]
    exact ⟨⟨.replied ref.id (.setProperty name value), _, _, _⟩, Or.inr rfl, rfl⟩

/-- A property that is described as one that may be set has a setter, which an
instance in use does not let start. -/
theorem HostClass.refusedBy_inUse_of_writable {w : World σ V} {entry : Entry σ V} {ref : ObjectRef}
    {state : σ} {lease : Lease} {info : PropertyInfo}
    (found : w.object? ref.id = some (.ofClass c state lease)) (used : lease ≠ .free)
    (known : c.property name = some info) (writable : info.writable = true) :
    w.RefusedBy entry ref (.setProperty name value) (.inUse c.name) := by
  obtain ⟨position, getter, setter, property, flags⟩ := property_eq_some_iff.mp known
  rw [flags] at writable
  obtain ⟨run, rfl⟩ := Option.isSome_iff_exists.mp writable
  exact World.refusedBy_inUse found property.select_setProperty (Lease.write?_eq_none used)

end

/-! ## The stages of a write -/

/-- What a write of a name may do, by the stage at which it ends. -/
structure StagedWrite (entry : Entry σ V) (a : Adapter V) (name : String) (v : V) (w : World σ V)
    (write : Outcome σ V (AccessResult V)) : Prop where
  /-- Nothing happens, or the host is called once, to set the property. -/
  called : write.trace = [] ∧ write.world = w ∨ ∃ value outcome inner, write.trace =
    [⟨.called a.object.id (.setProperty name value) outcome, w, write.world, inner⟩]
  /-- A write of an unknown name is rejected or absent, as the options say. -/
  unknown : (w.surface a.object).property name = none →
    write = ⟨if a.options.rejectUnknown then a.codec.throw (.unknownMember name) else .absent,
      [], w⟩
  /-- It is the same for all values and whatever the codec makes of them. -/
  unread : (w.surface a.object).property name = none →
    ∀ codec v', codec.toThrowable = a.codec.toThrowable →
      Adapter.setProperty entry { a with codec := codec } name v' w = write
  /-- No other write is absent. -/
  absent : write.value = .absent → (w.surface a.object).property name = none
  /-- A value that is not converted raises the fault, also where the property may
  not be set. -/
  unconverted : ∀ {info fault}, (w.surface a.object).property name = some info →
    a.codec.Converts v info.declaredType (.error fault) →
    write = ⟨a.codec.throw (.fault fault.cause), [], w⟩
  /-- A value that is converted for a property that may not be set is refused. -/
  readOnly : ∀ {info value}, (w.surface a.object).property name = some info →
    a.codec.Converts v info.declaredType (.ok value) → info.writable = false →
    write = ⟨a.codec.throw (.notWritable name), [], w⟩
  /-- Nothing else is refused in this way. -/
  notWritable : ∀ {other exception}, write.value = .thrown ⟨.notWritable other, exception⟩ →
    ∃ info value, (w.surface a.object).property name = some info ∧
      a.codec.Converts v info.declaredType (.ok value) ∧ info.writable = false
  /-- A value that is converted for a property that may be set is handed to the
  host, and the host's fault is raised. -/
  handed : ∀ {info value}, (w.surface a.object).property name = some info →
    a.codec.Converts v info.declaredType (.ok value) → info.writable = true →
    let called := callObject entry a.object (.setProperty name value) w
    write = ⟨match called.value with
      | .ok _ => .found v
      | .error fault => a.codec.throw (.fault fault.cause), called.trace, called.world⟩
  /-- An instance in use refuses such a value, and no setter runs. -/
  inUse : ∀ {info value c state lease}, (w.surface a.object).property name = some info →
    a.codec.Converts v info.declaredType (.ok value) → info.writable = true →
    w.object? a.object.id = some (.ofClass c state lease) → lease ≠ .free →
    write = ⟨a.codec.throw (.fault (.inUse c.name)),
      [⟨.called a.object.id (.setProperty name value) (.error (.inUse c.name)), w, w, []⟩], w⟩
  /-- A write that is answered is answered by the value that was handed in, and
  the setter is all that the host ran for it. -/
  found : ∀ {answer}, write.value = .found answer → answer = v ∧
    ∃ value returned span, span.Sets a.object.id name value ∧ write.trace =
      [⟨.called a.object.id (.setProperty name value) (.ok returned), w, write.world, [span]⟩]

/-- A write of a name is staged: it looks the name up, converts the value, asks
whether the property may be set, and only then calls the host. A write that ends
before the call has run nothing and changed nothing. -/
theorem setProperty_in_stages (entry : Entry σ V) (a : Adapter V) (name : String) (v : V)
    (w : World σ V) : StagedWrite entry a name v w (a.setProperty entry name v w) where
  called := by
    cases a.setProperty_ends entry name v w with
    | unknown _ ends => rw [ends]; exact Or.inl ⟨rfl, rfl⟩
    | unconverted _ _ _ _ ends => rw [ends]; exact Or.inl ⟨rfl, rfl⟩
    | readOnly _ _ _ _ _ ends => rw [ends]; exact Or.inl ⟨rfl, rfl⟩
    | faulted _ value _ _ _ _ _ ends => rw [ends]; exact Or.inr ⟨value, _, _, rfl⟩
    | answered value _ _ ends => rw [ends]; exact Or.inr ⟨value, _, _, rfl⟩
  unknown := Adapter.setProperty_of_unknown
  unread := by
    intro unknown codec v' same
    -- The codec decides nothing here but what an exception looks like.
    have other : (w.surface { a with codec := codec }.object).property name = none := unknown
    rw [Adapter.setProperty_of_unknown unknown, Adapter.setProperty_of_unknown other]
    simp only [Codec.throw, Codec.throwing, same]
  absent := by
    intro isAbsent
    cases a.setProperty_ends entry name v w with
    | unknown unknown _ => exact unknown
    | unconverted _ _ _ _ ends => rw [ends] at isAbsent; cases isAbsent
    | readOnly _ _ _ _ _ ends => rw [ends] at isAbsent; cases isAbsent
    | faulted _ _ _ _ _ _ _ ends => rw [ends] at isAbsent; cases isAbsent
    | answered _ _ _ ends => rw [ends] at isAbsent; cases isAbsent
  unconverted known refused :=
    Adapter.setProperty_of_unconverted known (Codec.forSlot_eq_iff.mpr refused)
  readOnly known converted readOnly :=
    Adapter.setProperty_of_readOnly known (Codec.forSlot_eq_iff.mpr converted) readOnly
  notWritable := by
    intro other exception refused
    cases a.setProperty_ends entry name v w with
    | unknown _ ends =>
      rw [ends] at refused
      dsimp only at refused
      split at refused <;> cases refused
    | unconverted _ _ _ _ ends => rw [ends] at refused; cases refused
    | readOnly info value known converted readOnly _ =>
      exact ⟨info, value, known, Codec.forSlot_eq_iff.mp converted, readOnly⟩
    | faulted _ _ _ _ _ _ _ ends => rw [ends] at refused; cases refused
    | answered _ _ _ ends => rw [ends] at refused; cases refused
  handed known converted writable :=
    Adapter.setProperty_of_writable known (Codec.forSlot_eq_iff.mpr converted) writable
  inUse := by
    intro info value c state lease known converted writable found used
    have described : c.property name = some info := by
      rw [← known, World.surface_of_class found]
      rfl
    have refused : w.RefusedBy entry a.object (.setProperty name value) (.inUse c.name) :=
      HostClass.refusedBy_inUse_of_writable found used described writable
    rw [Adapter.setProperty_of_writable known (Codec.forSlot_eq_iff.mpr converted) writable, refused]
    rfl
  found := by
    intro answer found
    cases a.setProperty_ends entry name v w with
    | unknown _ ends =>
      rw [ends] at found
      dsimp only at found
      split at found <;> cases found
    | unconverted _ _ _ _ ends => rw [ends] at found; cases found
    | readOnly _ _ _ _ _ ends => rw [ends] at found; cases found
    | faulted _ _ _ _ _ _ _ ends => rw [ends] at found; cases found
    | answered value returned answers ends =>
      rw [ends] at found ⊢
      cases found
      obtain ⟨span, sets, ran⟩ := World.exists_sets_of_ok answers
      rw [answers] at ran
      exact ⟨rfl, value, returned, span, sets, ran⟩

/-- A class with a property that may only be read and one that may only be
written. -/
def guarded : HostClass Nat (Request Nat Value) (Answer Nat Value) where
  name := "Guarded"
  kind := .reference
  declarations := [
    .property "Fixed" .int (some fun state _ => .done (.ok (.int (.ofNat state)))) none,
    .property "Open" .int none (some fun _ _ => .done (1, .ok .null))]
  indexer := none

/-- Writes to an instance that is being read, by an engine that coerces nothing:
each ends at another stage, and none runs a setter. -/
theorem guarded_refuses_by_stage :
    let w : World Nat Value := (World.empty.addObject (.ofClass guarded 0 (.readers 1))).2
    let a : Adapter Value :=
      { object := ⟨0, "Guarded"⟩, codec := .strict, options := .unset, trampoline := .bound }
    a.setProperty none "Lost" (.string "x") w = ⟨.absent, [], w⟩ ∧
      a.setProperty none "Fixed" (.string "x") w =
        ⟨a.codec.throw (.fault (.native "refused String -> Int32")), [], w⟩ ∧
      a.setProperty none "Fixed" (.int 1) w = ⟨a.codec.throw (.notWritable "Fixed"), [], w⟩ ∧
      a.setProperty none "Open" (.int 1) w = ⟨a.codec.throw (.fault (.inUse "Guarded")),
        [⟨.called 0 (.setProperty "Open" (.int 1)) (.error (.inUse "Guarded")), w, w, []⟩], w⟩ := by
  intro w a
  have unfit : a.codec.Converts (.string "x") .int
      (.error (.targetInvocation (.native "refused String -> Int32"))) :=
    .coerced rfl rfl rfl rfl
  have fits : a.codec.Converts (.int 1) .int (.ok (.int 1)) := .assignable rfl rfl rfl
  have fixed : (w.surface a.object).property "Fixed" = some ⟨"Fixed", .int, true, false⟩ := rfl
  have opened : (w.surface a.object).property "Open" = some ⟨"Open", .int, false, true⟩ := rfl
  have found : w.object? a.object.id = some (.ofClass guarded 0 (.readers 1)) := rfl
  refine ⟨?_, ?_, ?_, ?_⟩
  · exact (setProperty_in_stages none a "Lost" (.string "x") w).unknown rfl
  · exact (setProperty_in_stages none a "Fixed" (.string "x") w).unconverted fixed unfit
  · exact (setProperty_in_stages none a "Fixed" (.int 1) w).readOnly fixed fits rfl
  · have refused := (setProperty_in_stages none a "Open" (.int 1) w).inUse opened fits rfl found
      (by decide)
    exact refused

end Membrane
