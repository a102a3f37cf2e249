import Membrane.Proofs.ElementAccess
import Membrane.Proofs.FirstProperty
import Membrane.Proofs.IndexedAccess
import Membrane.Proofs.Leases

/-!
# Access through an indexer

A reference object with an indexer of one parameter is read and written by index
through it. The indexer decides whether either is allowed, before a value is
converted. The object is called at most once, and is given the index as an int
where it fits one and as a long elsewhere, and a value as the codec gives it,
whatever the type of the elements is. The members of an instance find the index in
64 bits in both cases (`indexers_are_given_index_and_value`).
-/

namespace Membrane

open Number

variable {σ V : Type}

/-! ## Indices -/

/-- An index as a host value: an int where the number fits one, and a long of the
number elsewhere. -/
inductive CarriesIndex (index : UInt32) : Value → Prop where
  | int {n : Int32} (small : index.toNat < 2 ^ 31) (same : n.toInt = index.toNat) :
      CarriesIndex index (.int n)
  | long {n : Int64} (large : 2 ^ 31 ≤ index.toNat) (same : n.toInt = index.toNat) :
      CarriesIndex index (.long n)

/-- The index as members of an instance are given it. -/
def indexLong (index : UInt32) : Int64 :=
  .ofNat index.toNat

/-- No index is too large for 64 bits, so none becomes negative. -/
theorem indexLong_toInt (index : UInt32) : (indexLong index).toInt = index.toNat := by
  have bound := index.toNat_lt
  exact Int64.toInt_ofNat_of_lt (by omega)

theorem carriesIndex_indexArgument (index : UInt32) : CarriesIndex index (indexArgument index) := by
  have narrow : fitsInt index.toNat = true ↔ index.toNat < 2 ^ 31 := by
    rw [fitsInt_iff]
    omega
  rw [indexArgument]
  by_cases small : index.toNat < 2 ^ 31
  · rw [if_pos (narrow.mpr small)]
    exact .int small (Int32.toInt_ofNat_of_lt small)
  · rw [if_neg (mt narrow.mp small)]
    exact .long (Nat.le_of_not_lt small) (indexLong_toInt index)

/-- Both widths are extracted as the same 64 bits. -/
theorem CarriesIndex.extractLong_eq {index : UInt32} {v : Value} (carries : CarriesIndex index v) :
    v.extractLong = .ok (indexLong index) := by
  cases carries with
  | @int n _ same =>
    have wide : n.toInt64 = indexLong index := by
      rw [← Int64.toInt_inj, Int32.toInt_toInt64, same, indexLong_toInt]
    rw [Value.extractLong, wide]
  | @long n _ same =>
    have wide : n = indexLong index := by
      rw [← Int64.toInt_inj, same, indexLong_toInt]
    rw [Value.extractLong, wide]

/-! ## Indexers of classes -/

namespace HostClass

variable {c : HostClass σ (Request σ V) (Answer σ V)}
  {declared : Indexer σ (Request σ V) (Answer σ V)}

theorem select_getItem {run : σ → List Value → Routine σ V (Except Fault Value)}
    (has : c.indexer = some declared) (getter : declared.getter = some run) (index : UInt32) :
    c.select (.getItem [indexArgument index]) =
      .ok ⟨.itemGetter, .reads run, [.long (indexLong index)]⟩ := by
  have extracted := (carriesIndex_indexArgument index).extractLong_eq
  simp only [select, itemGetter, has, Option.bind_some, getter, extracted]
  rfl

theorem select_setItem {run : σ → List Value → Routine σ V (σ × Except Fault Value)}
    (has : c.indexer = some declared) (setter : declared.setter = some run) (index : UInt32)
    (value : Value) :
    c.select (.setItem [indexArgument index, value]) =
      .ok ⟨.itemSetter, .writes run, [.long (indexLong index), value]⟩ := by
  have extracted := (carriesIndex_indexArgument index).extractLong_eq
  simp only [select, itemSetter, has, Option.bind_some, setter, extracted]
  rfl

end HostClass

namespace Surface

variable {surface : Surface} {indexer : IndexerInfo}

theorem singleIndexer_eq_some (has : surface.indexer = some indexer)
    (single : indexer.parameterCount = 1) : surface.singleIndexer = some indexer := by
  rw [singleIndexer, has, Option.filter_some, if_pos (decide_eq_true single)]

theorem singleIndexer_eq_none
    (without : ∀ indexer, surface.indexer = some indexer → indexer.parameterCount ≠ 1) :
    surface.singleIndexer = none := by
  rw [singleIndexer, Option.filter_eq_none_iff]
  intro indexer has
  rw [decide_eq_true_iff]
  exact without indexer has

end Surface

/-! ## Reads and writes -/

/-- An act that is one call of an object and nothing else. -/
def Outcome.IsCall {α : Type} (out : Outcome σ V α) (w : World σ V) (o : Nat) (call : HostCall) :
    Prop :=
  ∃ outcome inner, out.trace = [⟨.called o call outcome, w, out.world, inner⟩]

theorem isCall_callObject (entry : Entry σ V) (ref : ObjectRef) (call : HostCall) (w : World σ V) :
    (callObject entry ref call w).IsCall w ref.id call :=
  ⟨_, _, rfl⟩

/-- What an adapter does with an index at an instance that nobody uses. -/
structure RunsIndexer (entry : Entry σ V) (a : Adapter V) (index : UInt32) (v : V)
    (w : World σ V) (indexer : IndexerInfo) (write : Outcome σ V (AccessResult V))
    (c : HostClass σ (Request σ V) (Answer σ V)) (state : σ) : Prop where
  /-- What the members are given is the number of the index, which is not negative. -/
  number : (indexLong index).toInt = index.toNat
  /-- The getter of a readable indexer is given the index. -/
  reads : indexer.readable = true → ∃ run, c.indexer.bind (·.getter) = some run ∧
    w.ServedBy entry a.object (.getItem [indexArgument index]) state (.readers 1)
      ⟨.itemGetter, .reads run, [.long (indexLong index)]⟩
  /-- The setter of a writable indexer is given the index and the value, and if it
  succeeds, null is answered as far as the engine takes it. -/
  writes : indexer.writable = true → ∀ value, a.codec.fromEngine v = .ok value →
    ∃ run, c.indexer.bind (·.setter) = some run ∧
      w.ServedBy entry a.object (.setItem [indexArgument index, value]) state .writer
        ⟨.itemSetter, .writes run, [.long (indexLong index), value]⟩ ∧
      let began := w.modifyObject a.object.id (.withLease .writer)
      ∀ returned, ((run state [.long (indexLong index), value]).run entry began).value.2 =
        .ok returned → ∀ r, write.value = .found r ↔ a.codec.toEngine .null = .ok r

/-- What an adapter does with an index at an object that has an indexer of one
parameter. -/
structure RoutesIndex (entry : Entry σ V) (a : Adapter V) (index : UInt32) (v : V)
    (w : World σ V) (indexer : IndexerInfo) (read write : Outcome σ V (AccessResult V)) :
    Prop where
  /-- The host is given the index with its own number and in the narrower width. -/
  argument : CarriesIndex index (indexArgument index)
  /-- If the indexer is not readable, a read throws and calls nothing. -/
  unreadable : indexer.readable = false → read = ⟨a.codec.throw (.notReadable indexerName), [], w⟩
  notReadable : (∃ name exception, read.value = .thrown ⟨.notReadable name, exception⟩) ↔
    indexer.readable = false
  /-- Otherwise a read is one call of the object, with the index. -/
  readable : indexer.readable = true →
    let called := callObject entry a.object (.getItem [indexArgument index]) w
    read = ⟨a.codec.deliver .ofDescription called.value, called.trace, called.world⟩ ∧
      read.IsCall w a.object.id (.getItem [indexArgument index])
  /-- If the indexer is not writable, a write throws and calls nothing, whatever the
  engine value is and however the codec would convert it. -/
  readOnly : indexer.writable = false → ∀ fromEngine v',
    Adapter.setIndexed entry { a with codec := { a.codec with fromEngine := fromEngine } } index
      v' w = ⟨a.codec.throw (.notWritable indexerName), [], w⟩
  notWritable : (∃ name exception, write.value = .thrown ⟨.notWritable name, exception⟩) ↔
    indexer.writable = false
  /-- Otherwise a write throws and calls nothing if the codec does not give a value. -/
  unconverted : indexer.writable = true → ∀ fault, a.codec.fromEngine v = .error fault →
    write = ⟨a.codec.throw (.ofFault fault), [], w⟩
  /-- Otherwise it is one call of the object, with the index and the value that the
  codec gives. -/
  writable : indexer.writable = true → ∀ value, a.codec.fromEngine v = .ok value →
    let called := callObject entry a.object (.setItem [indexArgument index, value]) w
    write = ⟨a.codec.deliver .ofFault called.value, called.trace, called.world⟩ ∧
      write.IsCall w a.object.id (.setItem [indexArgument index, value])
  /-- No coercion has a part in a write. -/
  uncoerced : ∀ coerce, Adapter.setIndexed entry
    { a with codec := { a.codec with coerce := coerce } } index v w = write
  /-- At an instance that nobody uses, the members of its indexer run. -/
  instances : ∀ c state, w.object? a.object.id = some (.ofClass c state .free) →
    RunsIndexer entry a index v w indexer write c state

section

variable {w : World σ V} {a : Adapter V} {indexer : IndexerInfo} {entry : Entry σ V}
  {index : UInt32} {v : V} {c : HostClass σ (Request σ V) (Answer σ V)} {state : σ}

/-- An instance shows the indexer that its class declares. -/
theorem World.exists_declared_of_singleIndexer {lease : Lease}
    (found : w.object? a.object.id = some (.ofClass c state lease))
    (single : (w.surface a.object).singleIndexer = some indexer) :
    ∃ declared, c.indexer = some declared ∧ indexer.readable = declared.getter.isSome ∧
      indexer.writable = declared.setter.isSome := by
  rw [World.surface, found] at single
  rcases Option.filter_eq_some_iff.mp single with ⟨shown, _⟩
  rcases Option.map_eq_some_iff.mp shown with ⟨declared, has, rfl⟩
  exact ⟨declared, has, rfl, rfl⟩

/-- At an instance that nobody uses, the members of its indexer are given the index
in 64 bits. -/
theorem Adapter.runsIndexer (found : w.object? a.object.id = some (.ofClass c state .free))
    (other : (w.surface a.object).kind ≠ .array)
    (single : (w.surface a.object).singleIndexer = some indexer) :
    RunsIndexer entry a index v w indexer (a.setIndexed entry index v w) c state := by
  rcases World.exists_declared_of_singleIndexer found single with
    ⟨declared, has, readable, writable⟩
  constructor
  case number => exact indexLong_toInt index
  case reads =>
    intro allowed
    rcases Option.isSome_iff_exists.mp (readable.symm.trans allowed) with ⟨run, getter⟩
    have selected := HostClass.select_getItem has getter index
    have declares : c.indexer.bind (·.getter) = some run := by
      rw [has, Option.bind_some, getter]
    exact ⟨run, declares, World.servedBy_of_select found selected rfl⟩
  case writes =>
    intro allowed value taken
    rcases Option.isSome_iff_exists.mp (writable.symm.trans allowed) with ⟨run, setter⟩
    have selected := HostClass.select_setItem has setter index value
    have declares : c.indexer.bind (·.setter) = some run := by
      rw [has, Option.bind_some, setter]
    use run, declares, World.servedBy_of_select found selected rfl
    intro began returned succeeds r
    rw [setIndexed_of_writable other single allowed taken,
      callObject_of_writes found selected rfl, succeeds]
    exact Codec.deliver_ok_eq_found_iff

/-- What is thrown for an outcome that is reported by its description tells of no
indexer that may not be read. -/
theorem Codec.deliver_ofDescription_ne_notReadable {codec : Codec V}
    {outcome : Except Fault Value} {name : String} {exception : V} :
    codec.deliver .ofDescription outcome ≠ .thrown ⟨.notReadable name, exception⟩ := by
  cases delivered : outcome.bind codec.toEngine <;>
    simp [deliver, delivered, conclude, throw, throwing, ScriptError.ofDescription]

/-- A read is refused as not readable exactly if the indexer says so. -/
theorem Adapter.getIndexed_notReadable_iff (reference : (w.surface a.object).kind = .reference)
    (single : (w.surface a.object).singleIndexer = some indexer) :
    (∃ name exception,
      (a.getIndexed entry index w).value = .thrown ⟨.notReadable name, exception⟩) ↔
      indexer.readable = false := by
  constructor
  · rintro ⟨name, exception, thrown⟩
    rw [← Bool.not_eq_true]
    intro allowed
    rw [getIndexed_of_readable reference single allowed] at thrown
    exact Codec.deliver_ofDescription_ne_notReadable thrown
  · intro forbidden
    rw [getIndexed_of_unreadable reference single forbidden]
    exact ⟨_, _, rfl⟩

/-- A write is refused as not writable exactly if the indexer says so. -/
theorem Adapter.setIndexed_notWritable_iff (other : (w.surface a.object).kind ≠ .array)
    (single : (w.surface a.object).singleIndexer = some indexer) :
    (∃ name exception,
      (a.setIndexed entry index v w).value = .thrown ⟨.notWritable name, exception⟩) ↔
      indexer.writable = false := by
  constructor
  · rintro ⟨name, exception, thrown⟩
    rw [← Bool.not_eq_true]
    intro allowed
    cases taken : a.codec.fromEngine v with
    | error fault =>
      rw [setIndexed_of_unconverted other single allowed taken] at thrown
      cases thrown
    | ok value =>
      rw [setIndexed_of_writable other single allowed taken] at thrown
      rcases Codec.eq_fault_of_deliver thrown with ⟨fault, isFault⟩
      cases isFault
  · intro forbidden
    rw [setIndexed_of_readOnly other single forbidden]
    exact ⟨_, _, rfl⟩

theorem Adapter.routesIndex (reference : (w.surface a.object).kind = .reference)
    (single : (w.surface a.object).singleIndexer = some indexer) :
    RoutesIndex entry a index v w indexer (a.getIndexed entry index w)
      (a.setIndexed entry index v w) := by
  have other : (w.surface a.object).kind ≠ .array := by simp [reference]
  constructor
  case argument => exact carriesIndex_indexArgument index
  case unreadable => exact getIndexed_of_unreadable reference single
  case notReadable => exact getIndexed_notReadable_iff reference single
  case readable =>
    intro allowed called
    rw [getIndexed_of_readable reference single allowed]
    constructor
    · rfl
    · exact isCall_callObject entry a.object _ w
  case readOnly =>
    intro forbidden fromEngine v'
    exact setIndexed_of_readOnly other single forbidden
  case notWritable => exact setIndexed_notWritable_iff other single
  case unconverted =>
    intro allowed fault refused
    exact setIndexed_of_unconverted other single allowed refused
  case writable =>
    intro allowed value taken called
    rw [setIndexed_of_writable other single allowed taken]
    constructor
    · rfl
    · exact isCall_callObject entry a.object _ w
  case uncoerced =>
    intro coerce
    rfl
  case instances =>
    intro c state found
    exact runsIndexer found other single

/-- An adapter of a reference object reads and writes by index through an indexer of
one parameter, which is given the index with its own number and the value as the
codec gives it, and is called at most once. Without such an indexer both are absent
and nothing is called. -/
theorem indexers_are_given_index_and_value (reference : (w.surface a.object).kind = .reference)
    (entry : Entry σ V) (index : UInt32) (v : V) :
    (∀ indexer, (w.surface a.object).indexer = some indexer → indexer.parameterCount = 1 →
      RoutesIndex entry a index v w indexer (a.getIndexed entry index w)
        (a.setIndexed entry index v w)) ∧
    ((∀ indexer, (w.surface a.object).indexer = some indexer → indexer.parameterCount ≠ 1) →
      a.getIndexed entry index w = ⟨.absent, [], w⟩ ∧
        a.setIndexed entry index v w = ⟨.absent, [], w⟩) := by
  constructor
  · intro indexer has single
    exact Adapter.routesIndex reference (Surface.singleIndexer_eq_some has single)
  · intro without
    have missing := Surface.singleIndexer_eq_none without
    constructor
    · exact Adapter.getIndexed_of_noIndexer reference missing
    · exact Adapter.setIndexed_of_noIndexer (by simp [reference]) missing

end

/-- A class of texts by index, which answers the index that it is given and keeps
what its setter was given last. -/
def ledger : HostClass (List Value) (Request (List Value) Value) (Answer (List Value) Value) where
  name := "Ledger"
  kind := .reference
  declarations := []
  indexer := some {
    elementType := .string
    getter := some fun _ args => .done (.ok (args.headD .null))
    setter := some fun _ args => .done (args, .ok (.int 1)) }

/-- The first index that is no int reaches the members as a long that is not
negative, with a value that is not made a text. -/
theorem ledger_is_given_index_and_value :
    let w : World (List Value) Value := (World.empty.addObject (.ofClass ledger [] .free)).2
    let a : Adapter Value :=
      { object := ⟨0, "Ledger"⟩, codec := .direct, options := .unset, trampoline := .bound }
    let write := a.setIndexed none 0x80000000 (.int 5) w
    (w.surface a.object).kind = .reference ∧
      indexArgument 0x80000000 = .long 0x80000000 ∧
      (a.getIndexed none 0x80000000 w).value = .found (.long 0x80000000) ∧
      write.value = .found .null ∧
      write.world.object? 0 = some (.ofClass ledger [.long 0x80000000, .int 5] .free) := by
  intro w a write
  have reference : (w.surface a.object).kind = .reference := rfl
  have found : w.object? a.object.id = some (.ofClass ledger [] .free) := rfl
  rcases indexers_are_given_index_and_value reference none 0x80000000 (.int 5) with ⟨routes, _⟩
  have routed := routes ⟨1, .string, true, true⟩ rfl rfl
  rcases routed.readable rfl with ⟨reads, _⟩
  rcases routed.writable rfl (.int 5) rfl with ⟨writes, _⟩
  rcases (routed.instances ledger [] found).writes rfl (.int 5) rfl with ⟨run, declared, _, answers⟩
  cases declared
  have readBack : (a.getIndexed none 0x80000000 w).value = .found (.long 0x80000000) := by
    rw [reads]
    rfl
  have kept : write.world.object? 0 =
      some (.ofClass ledger [.long 0x80000000, .int 5] .free) := by
    rw [show write = _ from writes]
    rfl
  exact ⟨reference, by decide, readBack, (answers (.int 1) rfl .null).mpr rfl, kept⟩

end Membrane
