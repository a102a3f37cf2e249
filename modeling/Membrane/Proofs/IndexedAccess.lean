import Membrane.Bridge.Adapter
import Membrane.Codec.Direct

/-!
# Reading and writing by index

A read of an index goes to the element of an array or to the indexer of a
reference object, and is absent for a plain value. A write goes to the element of
an array and to the indexer of anything else, so a plain value that has an
indexer is written through it (`plain_is_written_through_indexer`).
-/

namespace Membrane

variable {σ V : Type}

namespace Adapter

variable {w : World σ V} {entry : Entry σ V} {a : Adapter V} {index : UInt32} {v : V}
  {indexer : IndexerInfo} {value : Value} {fault : Fault}

/-! ## How an indexed read ends -/

theorem getIndexed_of_plain (plain : (w.surface a.object).kind = .plain) :
    a.getIndexed entry index w = ⟨.absent, [], w⟩ := by
  simp only [getIndexed, bind, Act.bind, Act.look, List.nil_append, plain]
  rfl

theorem getIndexed_of_array (array : (w.surface a.object).kind = .array) :
    let called := callObject entry a.object (.getElement index.toNat) w
    a.getIndexed entry index w =
      ⟨a.codec.deliver .ofFault called.value, called.trace, called.world⟩ := by
  simp only [getIndexed, bind, Act.bind, Act.look, List.nil_append, array, pure, Act.pure,
    List.append_nil]

theorem getIndexed_of_noIndexer (reference : (w.surface a.object).kind = .reference)
    (missing : (w.surface a.object).singleIndexer = none) :
    a.getIndexed entry index w = ⟨.absent, [], w⟩ := by
  simp only [getIndexed, bind, Act.bind, Act.look, List.nil_append, reference, missing]
  rfl

theorem getIndexed_of_unreadable (reference : (w.surface a.object).kind = .reference)
    (single : (w.surface a.object).singleIndexer = some indexer)
    (unreadable : indexer.readable = false) :
    a.getIndexed entry index w = ⟨a.codec.throw (.notReadable indexerName), [], w⟩ := by
  simp only [getIndexed, bind, Act.bind, Act.look, List.nil_append, reference, single, unreadable]
  rfl

theorem getIndexed_of_readable (reference : (w.surface a.object).kind = .reference)
    (single : (w.surface a.object).singleIndexer = some indexer)
    (readable : indexer.readable = true) :
    let called := callObject entry a.object (.getItem [indexArgument index]) w
    a.getIndexed entry index w =
      ⟨a.codec.deliver .ofDescription called.value, called.trace, called.world⟩ := by
  simp only [getIndexed, bind, Act.bind, Act.look, List.nil_append, reference, single, readable,
    if_true, pure, Act.pure, List.append_nil]

/-! ## How an indexed write ends -/

/-- A write to an array converts the value before the array is called. -/
theorem setIndexed_of_kind_array (array : (w.surface a.object).kind = .array) :
    a.setIndexed entry index v w =
      match a.codec.fromEngine v with
      | .error fault => ⟨a.codec.throw (.ofFault fault), [], w⟩
      | .ok value => a.setElement entry index value w := by
  simp only [setIndexed, bind, Act.bind, Act.look, List.nil_append, array, ↓reduceIte]
  cases a.codec.fromEngine v <;> rfl

theorem setIndexed_of_noIndexer (other : (w.surface a.object).kind ≠ .array)
    (missing : (w.surface a.object).singleIndexer = none) :
    a.setIndexed entry index v w = ⟨.absent, [], w⟩ := by
  simp only [setIndexed, bind, Act.bind, Act.look, List.nil_append, other, ↓reduceIte, missing]
  rfl

theorem setIndexed_of_readOnly (other : (w.surface a.object).kind ≠ .array)
    (single : (w.surface a.object).singleIndexer = some indexer)
    (readOnly : indexer.writable = false) :
    a.setIndexed entry index v w = ⟨a.codec.throw (.notWritable indexerName), [], w⟩ := by
  simp only [setIndexed, bind, Act.bind, Act.look, List.nil_append, other, ↓reduceIte, single,
    readOnly]
  rfl

/-- A write through an indexer converts the value only where it may be written. -/
theorem setIndexed_of_unconverted (other : (w.surface a.object).kind ≠ .array)
    (single : (w.surface a.object).singleIndexer = some indexer)
    (writable : indexer.writable = true) (refused : a.codec.fromEngine v = .error fault) :
    a.setIndexed entry index v w = ⟨a.codec.throw (.ofFault fault), [], w⟩ := by
  simp only [setIndexed, bind, Act.bind, Act.look, List.nil_append, other, ↓reduceIte, single,
    writable, refused]
  rfl

theorem setIndexed_of_writable (other : (w.surface a.object).kind ≠ .array)
    (single : (w.surface a.object).singleIndexer = some indexer)
    (writable : indexer.writable = true) (taken : a.codec.fromEngine v = .ok value) :
    let called := callObject entry a.object (.setItem [indexArgument index, value]) w
    a.setIndexed entry index v w =
      ⟨a.codec.deliver .ofFault called.value, called.trace, called.world⟩ := by
  simp only [setIndexed, bind, Act.bind, Act.look, List.nil_append, other, ↓reduceIte, single,
    writable, taken, pure, Act.pure, List.append_nil]

/-! ## Plain values -/

/-- What the host answers is never absent. -/
theorem deliver_ne_absent (codec : Codec V) (report : Fault → ScriptError)
    (outcome : Except Fault Value) : codec.deliver report outcome ≠ .absent := by
  cases delivered : outcome.bind codec.toEngine <;>
    simp [Codec.deliver, delivered, Codec.conclude, Codec.throw]

/-- A write by index that finds an indexer is never absent. -/
theorem setIndexed_ne_absent (other : (w.surface a.object).kind ≠ .array)
    (single : (w.surface a.object).singleIndexer = some indexer) :
    (a.setIndexed entry index v w).value ≠ .absent := by
  cases allowed : indexer.writable with
  | false =>
    rw [setIndexed_of_readOnly other single allowed]
    exact nofun
  | true =>
    cases taken : a.codec.fromEngine v with
    | error fault =>
      rw [setIndexed_of_unconverted other single allowed taken]
      exact nofun
    | ok value =>
      rw [setIndexed_of_writable other single allowed taken]
      exact deliver_ne_absent _ _ _

/-- A plain value is not read by index, and nothing of it runs. It is not written
by index either if it has no single indexer; but if it has one, a write goes
through it as through the indexer of a reference object. -/
theorem plain_is_written_through_indexer (plain : (w.surface a.object).kind = .plain)
    (entry : Entry σ V) (index : UInt32) (v : V) :
    a.getIndexed entry index w = ⟨.absent, [], w⟩ ∧
    (a.setIndexed entry index v w = ⟨.absent, [], w⟩ ↔
      (w.surface a.object).singleIndexer = none) ∧
    ∀ indexer, (w.surface a.object).singleIndexer = some indexer →
      (indexer.writable = false →
        a.setIndexed entry index v w = ⟨a.codec.throw (.notWritable indexerName), [], w⟩) ∧
      (indexer.writable = true → ∀ fault, a.codec.fromEngine v = .error fault →
        a.setIndexed entry index v w = ⟨a.codec.throw (.ofFault fault), [], w⟩) ∧
      (indexer.writable = true → ∀ value, a.codec.fromEngine v = .ok value →
        let called := callObject entry a.object (.setItem [indexArgument index, value]) w
        a.setIndexed entry index v w =
          ⟨a.codec.deliver .ofFault called.value, called.trace, called.world⟩) := by
  have other : (w.surface a.object).kind ≠ .array := by
    rw [plain]
    exact nofun
  refine ⟨getIndexed_of_plain plain, ⟨?_, setIndexed_of_noIndexer other⟩, ?_⟩
  · intro isAbsent
    cases single : (w.surface a.object).singleIndexer with
    | none => rfl
    | some indexer =>
      exact absurd (congrArg Outcome.value isAbsent) (setIndexed_ne_absent other single)
  · intro indexer single
    exact ⟨setIndexed_of_readOnly other single, fun writable _ =>
      setIndexed_of_unconverted other single writable, fun writable _ =>
      setIndexed_of_writable other single writable⟩

end Adapter

/-- A value type with an indexer. -/
def tally : HostClass Nat (Request Nat Value) (Answer Nat Value) where
  name := "Tally"
  kind := .plain
  declarations := []
  indexer := some {
    elementType := .int
    getter := some fun state _ => .done (.ok (.int (.ofNat state)))
    setter := some fun _ _ => .done (7, .ok .null) }

/-- A write by index to a plain value may run an indexer and change a state. -/
theorem plain_write_changes_state :
    ¬ ∀ (w : World Nat Value) (a : Adapter Value) (index : UInt32) (v : Value),
      (w.surface a.object).kind = .plain →
      let write := a.setIndexed none index v w
      write.value = .absent ∧ write.trace = [] ∧ ∀ i, write.world.object? i = w.object? i := by
  intro always
  let w : World Nat Value := (World.empty.addObject (.ofClass tally 0 .free)).2
  let a : Adapter Value :=
    { object := ⟨0, "Tally"⟩, codec := .direct, options := .unset, trampoline := .bound }
  obtain ⟨isAbsent, _, _⟩ := always w a 0 (.int 1) rfl
  have answers : (a.setIndexed none 0 (.int 1) w).value = .found .null := rfl
  rw [answers] at isAbsent
  cases isAbsent

/-- The value type is not read by index, but it is written: its setter runs and
leaves another state. -/
theorem tally_is_written :
    let w : World Nat Value := (World.empty.addObject (.ofClass tally 0 .free)).2
    let a : Adapter Value :=
      { object := ⟨0, "Tally"⟩, codec := .direct, options := .unset, trampoline := .bound }
    let write := a.setIndexed none 0 (.int 1) w
    a.getIndexed none 0 w = ⟨.absent, [], w⟩ ∧ write.value = .found .null ∧
      write.world.object? 0 = some (.ofClass tally 7 .free) := by
  intro w a write
  have single : (w.surface a.object).singleIndexer = some ⟨1, .int, true, true⟩ := rfl
  have plain : (w.surface a.object).kind = .plain := rfl
  obtain ⟨reads, _, writes⟩ := Adapter.plain_is_written_through_indexer plain none 0 (.int 1)
  obtain ⟨_, _, served⟩ := writes _ single
  have through := served rfl (.int 1) rfl
  refine ⟨reads, ?_, ?_⟩
  · exact congrArg Outcome.value through
  · rw [show write = _ from through]
    rfl

end Membrane
