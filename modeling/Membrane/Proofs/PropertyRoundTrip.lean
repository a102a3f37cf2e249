import Membrane.Proofs.ElementAccess
import Membrane.Proofs.Exclusion
import Membrane.Proofs.FirstProperty
import Membrane.Proofs.Slots

/-!
# Properties that keep what is written

A property keeps a value if its setter stores what it is given and its getter
answers what was stored last, whatever else the two do. Written through an adapter
that coerces by conversion, it keeps what the codec gives where that fits its type,
and the converted value elsewhere. A read answers that value as the engine is given
it. What keeps it may be written again, as it was or as it was read, and nothing
changes any more; and a write that fails has changed nothing
(`written_properties_are_read_back`).
-/

namespace Membrane

variable {σ V : Type}

/-! ## Values for a property -/

namespace Codec

variable {codec : Codec V} {v r : V} {declared : ValueType} {value : Value}

theorem Converts.unique {outcome outcome' : Except Fault Value}
    (converts : codec.Converts v declared outcome)
    (converts' : codec.Converts v declared outcome') : outcome = outcome' :=
  (forSlot_eq_iff.mpr converts).symm.trans (forSlot_eq_iff.mpr converts')

/-- A value for a slot comes from a value that the codec gives: it is that value
where it fits, and the converted one elsewhere. -/
theorem Converts.exists_given (standard : codec.coerce = Value.changeType)
    (converted : codec.Converts v declared (.ok value)) :
    ∃ given, codec.fromEngine v = .ok given ∧ (declared.Fits given → value = given) ∧
      (¬ declared.Fits given → given.changeType declared = .ok value) := by
  cases read : codec.fromEngine v with
  | error fault =>
    have unread : codec.Converts v declared (.error fault) := .unread read
    cases converted.unique unread
  | ok given =>
    use given, rfl
    constructor
    · intro fits
      exact Except.ok.inj ((converts_iff_of_fits read fits).mp converted)
    · intro unfit
      rw [← standard]
      exact (converts_iff_of_not_fits read unfit).mp converted

/-- A value that was made for a slot is not made another when the engine gives it
back. -/
theorem Converts.of_fromEngine (standard : codec.coerce = Value.changeType)
    (converted : codec.Converts v declared (.ok value)) (back : codec.fromEngine r = .ok value) :
    codec.Converts r declared (.ok value) :=
  (converts_iff_of_fits back (converted.fits standard)).mpr rfl

end Codec

/-! ## Calls that a member answers -/

section

variable {w : World σ V} {ref : ObjectRef} {call : HostCall} {depth : Nat}
  {c : HostClass σ (Request σ V) (Answer σ V)} {state left : σ} {lease borrowed : Lease}
  {slot : Slot} {args : List Value} {result : Except Fault Value}

/-- A call for which a member reads an instance ends as the member does, and leaves
the instance as it is: what the member asks for meanwhile gives way to it. -/
theorem callObject_of_read {run : σ → List Value → Routine σ V (Except Fault Value)}
    (found : w.object? ref.id = some (.ofClass c state lease))
    (selected : c.select call = .ok ⟨slot, .reads run, args⟩)
    (lent : lease.read? = some borrowed)
    (runs : ((run state args).run (entryAt depth)
      (w.modifyObject ref.id (.withLease borrowed))).value = result) :
    let called := callObject (entryAt depth) ref call w
    called.value = slot.conclude result ∧ called.world.object? ref.id = w.object? ref.id := by
  subst runs
  have began := World.object?_withLease found borrowed
  rcases Lease.shared_of_read? lent with ⟨_, _, used⟩
  have body : Course none _ _ _ :=
    Program.courses_run (entryAt_courses depth) (run state args)
      (w.modifyObject ref.id (.withLease borrowed))
  rw [callObject_of_reads found selected lent]
  constructor
  · rfl
  · exact World.object?_endRead found lent (body.givesWay began used).1

/-- A call for which a member writes an instance ends as the member does, and leaves
the instance as the member did. -/
theorem callObject_of_written {run : σ → List Value → Routine σ V (σ × Except Fault Value)}
    (found : w.object? ref.id = some (.ofClass c state .free))
    (selected : c.select call = .ok ⟨slot, .writes run, args⟩)
    (runs : ((run state args).run (entryAt depth)
      (w.modifyObject ref.id (.withLease .writer))).value = (left, result)) :
    let called := callObject (entryAt depth) ref call w
    called.value = slot.conclude result ∧
      called.world.object? ref.id = some (.ofClass c left .free) := by
  have began := World.object?_withLease found .writer
  have body : Course none _ _ _ :=
    Program.courses_run (entryAt_courses depth) (run state args)
      (w.modifyObject ref.id (.withLease .writer))
  have kept := (body.givesWay began (by simp [Lease.free])).1.trans began
  rw [callObject_of_writes found selected rfl]
  dsimp only
  constructor
  · rw [runs]
  · rw [World.object?_modifyObject, if_pos rfl, kept, runs]
    rfl

end

/-! ## Properties that keep a value -/

/-- A property keeps a value: its getter answers what the state has stored, and its
setter stores what it is given, or refuses it and leaves the state alone. What is
stored is what was given last, and nothing of what was there before shows. -/
structure KeepsValue (entry : Entry σ V)
    (getter : σ → List Value → Routine σ V (Except Fault Value))
    (setter : σ → List Value → Routine σ V (σ × Except Fault Value))
    (stored : σ → Value) (store : σ → Value → Except Fault σ) : Prop where
  gets : ∀ state w, ((getter state []).run entry w).value = .ok (stored state)
  sets : ∀ {state value changed}, store state value = .ok changed →
    ∀ w, ∃ returned, ((setter state [value]).run entry w).value = (changed, .ok returned)
  refuses : ∀ {state value fault}, store state value = .error fault →
    ∀ w, ((setter state [value]).run entry w).value = (state, .error fault)
  stored_store : ∀ {state value changed}, store state value = .ok changed → stored changed = value
  store_store : ∀ {state value changed}, store state value = .ok changed →
    ∀ later, store changed later = store state later

/-! ## Accesses after a write -/

/-- The world after a number of writes of one value. -/
def Adapter.afterWrites (entry : Entry σ V) (a : Adapter V) (name : String) (v : V) :
    Nat → World σ V → World σ V
  | 0, w => w
  | n + 1, w => (a.setProperty entry name v (a.afterWrites entry name v n w)).world

/-- How a property that has a value stored is read, and written with that value. -/
structure HoldsValue (depth : Nat) (a : Adapter V) (name : String)
    (c : HostClass σ (Request σ V) (Answer σ V)) (state : σ) (value : Value) : Prop where
  /-- A read answers the value as the engine is given it, or throws as the engine is
  not given it, without the outermost layer of the fault. -/
  reads : ∀ u : World σ V, u.object? a.object.id = some (.ofClass c state .free) →
    let read := a.getProperty (entryAt depth) name u
    (∀ r, read.value = .found r ↔ a.codec.toEngine value = .ok r) ∧
      (∀ thrown, read.value = .thrown thrown ↔ ∃ fault, a.codec.toEngine value = .error fault ∧
        thrown = a.codec.throwing (.fault fault.cause)) ∧
      read.world.object? a.object.id = u.object? a.object.id
  /-- A write of anything that the codec gives as that value succeeds and echoes it,
  and the instance stays as it is. -/
  rewrites : ∀ (u : World σ V) (r : V), u.object? a.object.id = some (.ofClass c state .free) →
    a.codec.fromEngine r = .ok value →
    let again := a.setProperty (entryAt depth) name r u
    again.value = .found r ∧ again.world.object? a.object.id = u.object? a.object.id

/-- What a write to a property that keeps a value does. -/
structure RoundTrip (depth : Nat) (a : Adapter V) (name : String) (v : V) (w : World σ V)
    (declaredType : ValueType) (stored : σ → Value) (store : σ → Value → Except Fault σ)
    (c : HostClass σ (Request σ V) (Answer σ V)) (state : σ) (lease : Lease)
    (write : Outcome σ V (AccessResult V)) : Prop where
  /-- It succeeds exactly if the instance is not in use and the setter takes what the
  value is converted to. -/
  succeeds : (∃ r, write.value = .found r) ↔ lease = .free ∧ ∃ value changed,
    a.codec.Converts v declaredType (.ok value) ∧ store state value = .ok changed
  /-- Then it echoes the engine value, and the instance has a value stored: what the
  codec gives where that is null or assignable, and what that is converted to
  elsewhere. -/
  stores : ∀ r, write.value = .found r → r = v ∧ ∃ given value changed,
    a.codec.fromEngine v = .ok given ∧ (declaredType.Fits given → value = given) ∧
      (¬ declaredType.Fits given → given.changeType declaredType = .ok value) ∧
      write.world.object? a.object.id = some (.ofClass c changed .free) ∧
      stored changed = value ∧ HoldsValue depth a name c changed value
  /-- To write the value again, any number of times, succeeds and changes nothing. -/
  repeats : ∀ r, write.value = .found r → ∀ n,
    let later := a.afterWrites (entryAt depth) name v n write.world
    later.object? a.object.id = write.world.object? a.object.id ∧
      (a.setProperty (entryAt depth) name v later).value = .found v
  /-- A write that does not succeed throws, and the instance stays as it is. -/
  fails : (∀ r, write.value ≠ .found r) → (∃ error, write.value = a.codec.throw error) ∧
    write.world.object? a.object.id = w.object? a.object.id

section

variable {w : World σ V} {a : Adapter V} {name : String} {depth : Nat} {v : V} {value : Value}
  {c : HostClass σ (Request σ V) (Answer σ V)} {state changed : σ} {lease : Lease} {fault : Fault}
  {position : Nat} {declaredType : ValueType} {stored : σ → Value}
  {store : σ → Value → Except Fault σ}
  {getter : σ → List Value → Routine σ V (Except Fault Value)}
  {setter : σ → List Value → Routine σ V (σ × Except Fault Value)}

/-- To store again what is stored changes nothing. -/
theorem KeepsValue.store_again {entry : Entry σ V}
    (keeps : KeepsValue entry getter setter stored store)
    (accepted : store state value = .ok changed) : store changed value = .ok changed := by
  rw [keeps.store_store accepted]
  exact accepted

/-! ## Single accesses -/

namespace Adapter

/-- A read answers what the property keeps as the engine is given it, and leaves the
instance as it is. -/
theorem getProperty_of_keeps (found : w.object? a.object.id = some (.ofClass c state .free))
    (property : c.FirstProperty name position declaredType (some getter) (some setter))
    (keeps : KeepsValue (entryAt depth) getter setter stored store) :
    let read := a.getProperty (entryAt depth) name w
    read.value = a.codec.deliver .ofFault (.ok (stored state)) ∧
      read.world.object? a.object.id = w.object? a.object.id := by
  rcases callObject_of_read found property.select_getProperty rfl (keeps.gets state _) with
    ⟨answer, kept⟩
  rw [getProperty_of_readable (property.described found) rfl]
  dsimp only
  constructor
  · rw [answer]
    rfl
  · exact kept

/-- A write ends as the setter does, and leaves the instance as the setter does. -/
theorem setProperty_of_written {left : σ} {result : Except Fault Value}
    (found : w.object? a.object.id = some (.ofClass c state .free))
    (property : c.FirstProperty name position declaredType (some getter) (some setter))
    (converted : a.codec.Converts v declaredType (.ok value))
    (runs : ((setter state [value]).run (entryAt depth)
      (w.modifyObject a.object.id (.withLease .writer))).value = (left, result)) :
    let write := a.setProperty (entryAt depth) name v w
    write.value = a.codec.conclude .ofFault
        (((Slot.setter position).conclude result).map fun _ => v) ∧
      write.world.object? a.object.id = some (.ofClass c left .free) := by
  rcases callObject_of_written found property.select_setProperty runs with ⟨answer, stays⟩
  have given := Codec.forSlot_eq_iff.mpr converted
  rw [setProperty_of_writable (property.described found) given rfl]
  dsimp only
  constructor
  · rw [answer]
    cases result <;> rfl
  · exact stays

/-- A write of a value that the setter takes echoes the engine value, and the
instance has the value stored. -/
theorem setProperty_of_store (found : w.object? a.object.id = some (.ofClass c state .free))
    (property : c.FirstProperty name position declaredType (some getter) (some setter))
    (keeps : KeepsValue (entryAt depth) getter setter stored store)
    (converted : a.codec.Converts v declaredType (.ok value))
    (accepted : store state value = .ok changed) :
    let write := a.setProperty (entryAt depth) name v w
    write.value = .found v ∧
      write.world.object? a.object.id = some (.ofClass c changed .free) := by
  rcases keeps.sets accepted (w.modifyObject a.object.id (.withLease .writer)) with ⟨_, runs⟩
  exact setProperty_of_written found property converted runs

/-- A write of a value that the setter refuses throws, and leaves the instance as it
is. -/
theorem setProperty_of_refused (found : w.object? a.object.id = some (.ofClass c state .free))
    (property : c.FirstProperty name position declaredType (some getter) (some setter))
    (keeps : KeepsValue (entryAt depth) getter setter stored store)
    (converted : a.codec.Converts v declaredType (.ok value))
    (refused : store state value = .error fault) :
    let write := a.setProperty (entryAt depth) name v w
    write.value = a.codec.throw (.fault fault) ∧
      write.world.object? a.object.id = w.object? a.object.id := by
  have runs := keeps.refuses refused (w.modifyObject a.object.id (.withLease .writer))
  rw [found]
  exact setProperty_of_written found property converted runs

/-- A write to an instance in use throws and changes nothing. -/
theorem setProperty_of_inUse (found : w.object? a.object.id = some (.ofClass c state lease))
    (property : c.FirstProperty name position declaredType (some getter) (some setter))
    (converted : a.codec.Converts v declaredType (.ok value)) (used : lease ≠ .free) :
    let write := a.setProperty (entryAt depth) name v w
    write.value = a.codec.throw (.fault (.inUse c.name)) ∧ write.world = w := by
  have refused : w.RefusedBy (entryAt depth) a.object (.setProperty name value) (.inUse c.name) :=
    World.refusedBy_inUse found property.select_setProperty (Lease.write?_eq_none used)
  have given := Codec.forSlot_eq_iff.mpr converted
  rw [setProperty_of_writable (property.described found) given rfl]
  dsimp only
  rw [refused]
  exact ⟨rfl, rfl⟩

/-- How a write to a property that keeps a value ends: the instance is idle, and the
value is converted and taken, or the write throws and the instance stays as it is. -/
inductive KeepsWrite (a : Adapter V) (v : V) (w : World σ V) (declaredType : ValueType)
    (store : σ → Value → Except Fault σ) (c : HostClass σ (Request σ V) (Answer σ V)) (state : σ)
    (lease : Lease) (write : Outcome σ V (AccessResult V)) : Prop where
  | stored {value : Value} {changed : σ} (idle : lease = .free)
      (converted : a.codec.Converts v declaredType (.ok value))
      (accepted : store state value = .ok changed) (echoes : write.value = .found v)
      (left : write.world.object? a.object.id = some (.ofClass c changed .free))
  | failed {error : ScriptError}
      (unstored : ∀ value changed, lease = .free →
        a.codec.Converts v declaredType (.ok value) → store state value ≠ .ok changed)
      (throws : write.value = a.codec.throw error)
      (kept : write.world.object? a.object.id = w.object? a.object.id)

theorem keepsWrite (found : w.object? a.object.id = some (.ofClass c state lease))
    (property : c.FirstProperty name position declaredType (some getter) (some setter))
    (keeps : KeepsValue (entryAt depth) getter setter stored store) (v : V) :
    KeepsWrite a v w declaredType store c state lease
      (a.setProperty (entryAt depth) name v w) := by
  cases given : a.codec.forSlot v declaredType with
  | error fault =>
    have ends : a.setProperty (entryAt depth) name v w = _ :=
      setProperty_of_unconverted (property.described found) given
    rw [ends]
    apply KeepsWrite.failed
    case unstored =>
      intro value changed _ converted _
      cases converted.unique (Codec.forSlot_eq_iff.mp given)
    case throws => rfl
    case kept => rfl
  | ok value =>
    have converted := Codec.forSlot_eq_iff.mp given
    by_cases idle : lease = .free
    · subst idle
      cases accepted : store state value with
      | ok changed =>
        rcases setProperty_of_store found property keeps converted accepted with ⟨echoes, left⟩
        exact .stored rfl converted accepted echoes left
      | error fault =>
        rcases setProperty_of_refused found property keeps converted accepted with ⟨throws, kept⟩
        apply KeepsWrite.failed
        case unstored =>
          intro other changed _ converted' accepted'
          cases converted'.unique converted
          cases accepted.symm.trans accepted'
        case throws => exact throws
        case kept => exact kept
    · have busy : _ ∧ (a.setProperty (entryAt depth) name v w).world = w :=
        setProperty_of_inUse found property converted idle
      apply KeepsWrite.failed
      case unstored =>
        intro _ _ free
        exact absurd free idle
      case throws => exact busy.1
      case kept => rw [busy.2]

/-- What stores the value that is stored already changes nothing, however often it is
done. -/
theorem object?_afterWrites
    (property : c.FirstProperty name position declaredType (some getter) (some setter))
    (keeps : KeepsValue (entryAt depth) getter setter stored store)
    (found : w.object? a.object.id = some (.ofClass c state .free))
    (converted : a.codec.Converts v declaredType (.ok value))
    (again : store state value = .ok state) (n : Nat) :
    (a.afterWrites (entryAt depth) name v n w).object? a.object.id =
      some (.ofClass c state .free) := by
  induction n with
  | zero => exact found
  | succ n ih =>
    rcases setProperty_of_store ih property keeps converted again with ⟨_, left⟩
    exact left

end Adapter

/-! ## Round trips -/

theorem holdsValue
    (property : c.FirstProperty name position declaredType (some getter) (some setter))
    (keeps : KeepsValue (entryAt depth) getter setter stored store)
    (standard : a.codec.coerce = Value.changeType)
    (converted : a.codec.Converts v declaredType (.ok value))
    (accepted : store state value = .ok changed) : HoldsValue depth a name c changed value where
  reads := by
    intro u found read
    rcases Adapter.getProperty_of_keeps found property keeps with ⟨answer, kept⟩
    rw [keeps.stored_store accepted] at answer
    constructor
    · intro r
      rw [answer]
      exact Codec.deliver_ok_eq_found_iff
    · constructor
      · intro thrown
        rw [answer]
        exact Codec.deliver_ok_eq_thrown_iff
      · exact kept
  rewrites := by
    intro u r found back again
    have converted' := converted.of_fromEngine standard back
    have unmoved := keeps.store_again accepted
    rcases Adapter.setProperty_of_store found property keeps converted' unmoved with ⟨echoes, left⟩
    exact ⟨echoes, left.trans found.symm⟩

/-- A property that keeps a value keeps of a write what the codec gives, converted
where it does not fit; a read answers that, and neither a write of what was read nor
of what was written changes the instance any more. A write that fails leaves the
instance as it was. -/
theorem written_properties_are_read_back
    (found : w.object? a.object.id = some (.ofClass c state lease))
    (property : c.FirstProperty name position declaredType (some getter) (some setter))
    (keeps : KeepsValue (entryAt depth) getter setter stored store)
    (standard : a.codec.coerce = Value.changeType) (v : V) :
    RoundTrip depth a name v w declaredType stored store c state lease
      (a.setProperty (entryAt depth) name v w) := by
  cases Adapter.keepsWrite found property keeps v with
  | @stored value changed idle converted accepted echoes left =>
    constructor
    case succeeds => exact iff_of_true ⟨v, echoes⟩ ⟨idle, value, changed, converted, accepted⟩
    case stores =>
      intro r answered
      cases echoes.symm.trans answered
      rcases converted.exists_given standard with ⟨given, read, fits, unfit⟩
      exact ⟨rfl, given, value, changed, read, fits, unfit, left, keeps.stored_store accepted,
        holdsValue property keeps standard converted accepted⟩
    case repeats =>
      intro _ _ n later
      have again := keeps.store_again accepted
      have same := Adapter.object?_afterWrites property keeps left converted again n
      rcases Adapter.setProperty_of_store same property keeps converted again with ⟨echoes', _⟩
      exact ⟨same.trans left.symm, echoes'⟩
    case fails =>
      intro unanswered
      exact absurd echoes (unanswered v)
  | @failed error unstored throws kept =>
    have unanswered : ∀ r, (a.setProperty (entryAt depth) name v w).value ≠ .found r := by
      intro r answered
      cases throws.symm.trans answered
    constructor
    case succeeds =>
      constructor
      · rintro ⟨r, answered⟩
        exact absurd answered (unanswered r)
      · rintro ⟨idle, value, changed, converted, accepted⟩
        exact absurd accepted (unstored value changed idle converted)
    case stores =>
      intro r answered
      exact absurd answered (unanswered r)
    case repeats =>
      intro r answered
      exact absurd answered (unanswered r)
    case fails =>
      intro _
      exact ⟨⟨error, throws⟩, kept⟩

end

/-! ## Properties over slots -/

/-- A property keeps a value if its members read a slot and store their argument in
it. -/
theorem keepsValue_slot (entry : Entry InstanceState V) (name : String) :
    KeepsValue entry (Body.slot name).asGetter (Body.store name (Body.argument 0)).asWriter
      (·.slot name) (fun s v => .ok (s.store name v)) where
  gets _ _ := rfl
  sets := by
    intro state value changed accepted w
    cases accepted
    exact ⟨.null, rfl⟩
  refuses := by
    intro state value fault refused
    cases refused
  stored_store := by
    intro state value changed accepted
    cases accepted
    exact state.slot_store name value
  store_store := by
    intro state value changed accepted later
    cases accepted
    rw [state.store_store name value later]

/-- A class whose instances have an age. -/
def person :
    HostClass InstanceState (Request InstanceState Value) (Answer InstanceState Value) where
  name := "Person"
  kind := .reference
  declarations := [.property "Age" .int (some (Body.slot "Age").asGetter)
    (some (Body.store "Age" (Body.argument 0)).asWriter)]
  indexer := none

/-- A text is echoed, but what is stored and read is its number, which may be written
in its turn. -/
theorem age_is_read_back :
    let w : World InstanceState Value :=
      (World.empty.addObject (.ofClass person ⟨[], []⟩ .free)).2
    let a : Adapter Value :=
      { object := ⟨0, "Person"⟩, codec := .direct, options := .unset, trampoline := .bound }
    let write := a.setProperty (entryAt 0) "Age" (.string " 42 ") w
    w.object? 0 = some (.ofClass person ⟨[], []⟩ .free) ∧
      write.value = .found (.string " 42 ") ∧
      (∃ state : InstanceState, write.world.object? 0 = some (.ofClass person state .free) ∧
        state.slot "Age" = .int 42) ∧
      (a.getProperty (entryAt 0) "Age" write.world).value = .found (.int 42) ∧
      (a.setProperty (entryAt 0) "Age" (.int 42) write.world).value = .found (.int 42) := by
  intro w a write
  have found : w.object? a.object.id = some (.ofClass person ⟨[], []⟩ .free) := rfl
  have first : person.FirstProperty "Age" 0 .int (some (Body.slot "Age").asGetter)
      (some (Body.store "Age" (Body.argument 0)).asWriter) := by
    constructor
    · rfl
    · intro earlier lower
      exact absurd lower (Nat.not_lt_zero earlier)
  have parsed : (Value.string " 42 ").changeType .int = .ok (.int 42) := by decide +kernel
  have trip := written_properties_are_read_back found first (keepsValue_slot (entryAt 0) "Age")
    rfl (.string " 42 ")
  rcases trip.succeeds.mpr ⟨rfl, .int 42, _, .coerced rfl rfl rfl parsed, rfl⟩ with ⟨r, answered⟩
  rcases trip.stores r answered with
    ⟨rfl, given, value, state, read, _, converts, left, holds, held⟩
  cases read
  have unfit : ¬ ValueType.int.Fits (.string " 42 ") := by
    intro fits
    cases fits .string rfl
  cases (converts unfit).symm.trans parsed
  rcases held.reads write.world left with ⟨reads, _, _⟩
  rcases held.rewrites write.world (.int 42) left rfl with ⟨rewrites, _⟩
  exact ⟨found, answered, ⟨state, left, holds⟩, (reads (.int 42)).mpr rfl, rewrites⟩

end Membrane
