import Membrane.Codec.Direct
import Membrane.Proofs.IndexedAccess
import Membrane.Proofs.NamedAccess
import Membrane.Proofs.Restoration

/-!
# Layers of faults at the boundary

An instance puts one invocation layer around what its members raise, and the
boundary takes one off. So a fault reaches the script as the member raised it,
with all the layers that it had of its own (`fault_layers_cancel`). What no
member raised comes without a layer and keeps none. Only a read through an
indexer takes nothing off: it tells the texts of all layers. Every fault of which
an exception tells is one of these (`Adapter.explained_perform`).
-/

namespace Membrane

variable {σ V : Type}

/-! ## Layers -/

namespace Fault

variable {core : Fault}

/-- A fault under a number of invocation layers. -/
def wrapped (core : Fault) : Nat → Fault
  | 0 => core
  | k + 1 => .targetInvocation (core.wrapped k)

/-- The text by which a description tells of one layer. -/
def layer : String :=
  "Exception has been thrown by the target of an invocation. ---> "

/-- The text by which a description tells of a number of layers. -/
def layers (k : Nat) : String :=
  String.join (List.replicate k layer)

theorem layers_succ (k : Nat) : layers (k + 1) = layer ++ layers k := by
  rw [layers, List.replicate_succ, String.join_cons, layers]

theorem describe_targetInvocation (cause : Fault) :
    (targetInvocation cause).describe = layer ++ cause.describe := by
  rw [describe]
  rfl

/-- Every fault is a bare one under some layers. -/
theorem exists_wrapped (fault : Fault) :
    ∃ (core : Fault) (k : Nat), core.inner? = none ∧ fault = core.wrapped k := by
  induction fault with
  | targetInvocation cause ih =>
    obtain ⟨core, k, bare, rfl⟩ := ih
    exact ⟨core, k + 1, bare, rfl⟩
  | _ => exact ⟨_, 0, rfl, rfl⟩

theorem describe_of_bare (bare : core.inner? = none) : core.describe = core.message := by
  cases core with
  | targetInvocation => cases bare
  | _ => rfl

/-- A description tells the layers one by one, and the bare fault at last. -/
theorem describe_wrapped (bare : core.inner? = none) (k : Nat) :
    (core.wrapped k).describe = layers k ++ core.message := by
  induction k with
  | zero => rw [wrapped, describe_of_bare bare, layers, List.replicate_zero, String.join_nil,
      String.empty_append]
  | succ k ih =>
    calc
      (core.wrapped (k + 1)).describe = layer ++ (core.wrapped k).describe :=
        describe_targetInvocation _
      _ = layer ++ (layers k ++ core.message) := by rw [ih]
      _ = layers (k + 1) ++ core.message := by rw [layers_succ, String.append_assoc]

/-- At most one layer is taken off. -/
theorem cause_wrapped (bare : core.inner? = none) (k : Nat) :
    (core.wrapped k).cause = core.wrapped (k - 1) := by
  cases k with
  | zero => rw [Nat.zero_sub, wrapped, cause, bare, Option.getD_none]
  | succ k => rfl

theorem cause_of_bare (bare : core.inner? = none) : core.cause = core :=
  cause_wrapped bare 0

end Fault

/-! ## Faults of an instance -/

namespace HostClass

variable {c : HostClass σ (Request σ V) (Answer σ V)} {call : HostCall} {fault : Fault}

/-- What a class refuses comes without a layer. -/
theorem inner?_of_select_eq_error (refused : c.select call = .error fault) :
    fault.inner? = none := by
  rcases select_eq_error refused with rfl | ⟨index, unread⟩
  · cases call <;> rfl
  · cases index <;> cases unread <;> rfl

end HostClass

namespace World

variable {w : World σ V} {entry : Entry σ V} {ref : ObjectRef} {call : HostCall} {fault : Fault}

/-- A member of an instance runs for a call and raises a fault. -/
def Raises (w : World σ V) (entry : Entry σ V) (ref : ObjectRef) (call : HostCall)
    (fault : Fault) : Prop :=
  ∃ c state lease borrowed selection, w.object? ref.id = some (.ofClass c state lease) ∧
    c.select call = .ok selection ∧ selection.closure.borrow? lease = some borrowed ∧
    (selection.closure.run entry state selection.args
      (w.modifyObject ref.id (.withLease borrowed))).value = .error fault

/-- The instance puts a layer around what its member raises. -/
theorem callObject_of_raises (raises : w.Raises entry ref call fault) :
    (callObject entry ref call w).value = .error (.targetInvocation fault) := by
  obtain ⟨c, state, lease, borrowed, selection, found, selected, lent, raised⟩ := raises
  have served : w.ServedBy entry ref call state borrowed selection :=
    servedBy_of_select found selected lent
  obtain ⟨ended, runs⟩ := served
  rw [runs]
  dsimp only
  rw [raised, Slot.conclude]

/-- A fault of an instance was raised by a member, or no member ran and the fault
has no layer. -/
theorem raises_or_refusedBy {c : HostClass σ (Request σ V) (Answer σ V)} {state : σ}
    {lease : Lease} (found : w.object? ref.id = some (.ofClass c state lease))
    (faults : (callObject entry ref call w).value = .error fault) :
    (∃ raised, w.Raises entry ref call raised ∧ fault = .targetInvocation raised) ∨
      (fault.inner? = none ∧ w.RefusedBy entry ref call fault) := by
  cases selected : c.select call with
  | error unserved =>
    have refused : w.RefusedBy entry ref call unserved := refusedBy_of_select found selected
    rw [refused] at faults
    cases faults
    exact Or.inr ⟨HostClass.inner?_of_select_eq_error selected, refused⟩
  | ok selection =>
    cases lent : selection.closure.borrow? lease with
    | none =>
      have refused : w.RefusedBy entry ref call (.inUse c.name) :=
        refusedBy_inUse found selected lent
      rw [refused] at faults
      cases faults
      exact Or.inr ⟨rfl, refused⟩
    | some borrowed =>
      cases ran : (selection.closure.run entry state selection.args
        (w.modifyObject ref.id (.withLease borrowed))).value with
      | error raised =>
        have raises : w.Raises entry ref call raised :=
          ⟨c, state, lease, borrowed, selection, found, selected, lent, ran⟩
        rw [callObject_of_raises raises] at faults
        cases faults
        exact Or.inl ⟨raised, raises, rfl⟩
      | ok returned =>
        have served : w.ServedBy entry ref call state borrowed selection :=
          servedBy_of_select found selected lent
        obtain ⟨ended, runs⟩ := served
        rw [runs] at faults
        dsimp only at faults
        rw [ran] at faults
        cases faults

end World

/-! ## Accesses that go to the host -/

namespace Adapter

variable {w : World σ V} {entry : Entry σ V} {a : Adapter V} {access : Access V} {call : HostCall}
  {fault : Fault}

/-- Whether an access tells of faults by their description: a read by index of a
reference object does. -/
def describes (a : Adapter V) (w : World σ V) : Access V → Bool
  | .getIndexed _ => (w.surface a.object).kind = .reference
  | _ => false

/-- The script error that an access makes of a fault. -/
def report (a : Adapter V) (w : World σ V) (access : Access V) (fault : Fault) : ScriptError :=
  if a.describes w access then .ofDescription fault else .ofFault fault

/-- An access makes one call and delivers its outcome. -/
inductive Delivers (a : Adapter V) (w : World σ V) : Access V → HostCall → Prop where
  | property {name : String} {info : PropertyInfo}
      (known : (w.surface a.object).property name = some info) (readable : info.readable = true) :
      Delivers a w (.getProperty name) (.getProperty name)
  | element {index : UInt32} (array : (w.surface a.object).kind = .array) :
      Delivers a w (.getIndexed index) (.getElement index.toNat)
  | item {index : UInt32} {indexer : IndexerInfo}
      (reference : (w.surface a.object).kind = .reference)
      (single : (w.surface a.object).singleIndexer = some indexer)
      (readable : indexer.readable = true) :
      Delivers a w (.getIndexed index) (.getItem [indexArgument index])
  | setItem {index : UInt32} {indexer : IndexerInfo} {v : V} {value : Value}
      (other : (w.surface a.object).kind ≠ .array)
      (single : (w.surface a.object).singleIndexer = some indexer)
      (writable : indexer.writable = true) (taken : a.codec.fromEngine v = .ok value) :
      Delivers a w (.setIndexed index v) (.setItem [indexArgument index, value])

theorem perform_of_delivers (delivers : a.Delivers w access call) :
    let called := callObject entry a.object call w
    a.perform entry access w =
      ⟨a.codec.deliver (a.report w access) called.value, called.trace, called.world⟩ := by
  cases delivers with
  | property known readable => exact getProperty_of_readable known readable
  | @element index array =>
    have reports : a.report w (.getIndexed index) = .ofFault := by
      funext fault
      simp [report, describes, array]
    rw [reports]
    exact getIndexed_of_array array
  | @item index indexer reference single readable =>
    have reports : a.report w (.getIndexed index) = .ofDescription := by
      funext fault
      simp [report, describes, reference]
    rw [reports]
    exact getIndexed_of_readable reference single readable
  | setItem other single writable taken => exact setIndexed_of_writable other single writable taken

/-- An access begins with a call, and raises the fault in which the call ends. -/
inductive Sends (a : Adapter V) (w : World σ V) : Access V → HostCall → Prop where
  | delivered {access : Access V} {call : HostCall} (delivers : a.Delivers w access call) :
      Sends a w access call
  | property {name : String} {info : PropertyInfo} {v : V} {value : Value}
      (known : (w.surface a.object).property name = some info)
      (converted : a.codec.Converts v info.declaredType (.ok value))
      (writable : info.writable = true) :
      Sends a w (.setProperty name v) (.setProperty name value)
  | element {index : UInt32} {v : V} {value : Value}
      (array : (w.surface a.object).kind = .array) (taken : a.codec.fromEngine v = .ok value) :
      Sends a w (.setIndexed index v) (.setElement index.toNat value)

theorem perform_of_sends (sends : a.Sends w access call)
    (faults : (callObject entry a.object call w).value = .error fault) :
    (a.perform entry access w).value = a.codec.throw (a.report w access fault) := by
  cases sends with
  | delivered delivers =>
    rw [perform_of_delivers delivers]
    dsimp only
    rw [faults]
    rfl
  | property known converted writable =>
    have ends : a.setProperty entry _ _ w = _ :=
      setProperty_of_writable known (Codec.forSlot_eq_iff.mpr converted) writable
    rw [perform, ends]
    dsimp only
    rw [faults]
    rfl
  | element array taken =>
    simp only [perform, setIndexed_of_kind_array array, taken, setElement, bind, Act.bind, faults]
    rfl

/-- A codec refuses a value on its way in, or one on its way out. -/
inductive CodecRefuses (entry : Entry σ V) (a : Adapter V) (w : World σ V) :
    Access V → Fault → Prop where
  | unconverted {name : String} {info : PropertyInfo} {v : V} {fault : Fault}
      (known : (w.surface a.object).property name = some info)
      (refused : a.codec.Converts v info.declaredType (.error fault)) :
      CodecRefuses entry a w (.setProperty name v) fault
  | element {index : UInt32} {v : V} {fault : Fault}
      (array : (w.surface a.object).kind = .array)
      (refused : a.codec.fromEngine v = .error fault) :
      CodecRefuses entry a w (.setIndexed index v) fault
  | item {index : UInt32} {indexer : IndexerInfo} {v : V} {fault : Fault}
      (other : (w.surface a.object).kind ≠ .array)
      (single : (w.surface a.object).singleIndexer = some indexer)
      (writable : indexer.writable = true) (refused : a.codec.fromEngine v = .error fault) :
      CodecRefuses entry a w (.setIndexed index v) fault
  | undelivered {access : Access V} {call : HostCall} {value : Value} {fault : Fault}
      (delivers : a.Delivers w access call)
      (answers : (callObject entry a.object call w).value = .ok value)
      (refused : a.codec.toEngine value = .error fault) :
      CodecRefuses entry a w access fault
  | readBack {index : UInt32} {v : V} {value returned element : Value} {fault : Fault}
      (array : (w.surface a.object).kind = .array) (taken : a.codec.fromEngine v = .ok value)
      (stores : (callObject entry a.object (.setElement index.toNat value) w).value = .ok returned)
      (reads : let stored := (callObject entry a.object (.setElement index.toNat value) w).world
        (callObject entry a.object (.getElement index.toNat) stored).value = .ok element)
      (refused : a.codec.toEngine element = .error fault) :
      CodecRefuses entry a w (.setIndexed index v) fault

theorem perform_of_codecRefuses (refuses : a.CodecRefuses entry w access fault) :
    (a.perform entry access w).value = a.codec.throw (a.report w access fault) := by
  cases refuses with
  | unconverted known refused =>
    rw [perform, setProperty_of_unconverted known (Codec.forSlot_eq_iff.mpr refused)]
    rfl
  | element array refused =>
    rw [perform, setIndexed_of_kind_array array, refused]
    rfl
  | item other single writable refused =>
    rw [perform, setIndexed_of_unconverted other single writable refused]
    rfl
  | undelivered delivers answers refused =>
    rw [perform_of_delivers delivers]
    dsimp only
    rw [answers, Codec.deliver, Except.bind, refused]
    rfl
  | readBack array taken stores reads refused =>
    simp only [perform, setIndexed_of_kind_array array, taken, setElement, bind, Act.bind, stores,
      reads, pure, Act.pure, Codec.deliver, Except.bind, refused]
    rfl

/-- An access faults: the host does in the call with which it begins or when it
reads a stored element back, or the codec does. -/
inductive Faults (entry : Entry σ V) (a : Adapter V) (w : World σ V) : Access V → Fault → Prop where
  | sent {access : Access V} {call : HostCall} {fault : Fault} (sends : a.Sends w access call)
      (faults : (callObject entry a.object call w).value = .error fault) :
      Faults entry a w access fault
  | readBack {index : UInt32} {v : V} {value returned : Value} {fault : Fault}
      (array : (w.surface a.object).kind = .array) (taken : a.codec.fromEngine v = .ok value)
      (stores : (callObject entry a.object (.setElement index.toNat value) w).value = .ok returned)
      (faults : let stored := (callObject entry a.object (.setElement index.toNat value) w).world
        (callObject entry a.object (.getElement index.toNat) stored).value = .error fault) :
      Faults entry a w (.setIndexed index v) fault
  | codec {access : Access V} {fault : Fault} (refuses : a.CodecRefuses entry w access fault) :
      Faults entry a w access fault

/-- What an exception may tell: that a name may not be accessed so, or a fault of
the access. -/
def Explained (entry : Entry σ V) (a : Adapter V) (w : World σ V) (access : Access V)
    (error : ScriptError) : Prop :=
  (∃ name, error = .notReadable name ∨ error = .notWritable name ∨ error = .unknownMember name) ∨
    ∃ fault, a.Faults entry w access fault ∧ error = a.report w access fault

theorem explained_of_delivers {thrown : Thrown V} (delivers : a.Delivers w access call)
    (throws : (a.perform entry access w).value = .thrown thrown) :
    a.Explained entry w access thrown.error := by
  rw [perform_of_delivers delivers] at throws
  cases outcome : (callObject entry a.object call w).value with
  | error fault =>
    simp only [outcome] at throws
    cases throws
    exact Or.inr ⟨fault, .sent (.delivered delivers) outcome, rfl⟩
  | ok value =>
    cases refused : a.codec.toEngine value with
    | ok v =>
      simp only [outcome, Codec.deliver, Except.bind, refused] at throws
      cases throws
    | error fault =>
      simp only [outcome, Codec.deliver, Except.bind, refused] at throws
      cases throws
      exact Or.inr ⟨fault, .codec (.undelivered delivers outcome refused), rfl⟩

variable {thrown : Thrown V} {name : String} {index : UInt32} {v : V}

theorem explained_getProperty (throws : (a.getProperty entry name w).value = .thrown thrown) :
    a.Explained entry w (.getProperty name) thrown.error := by
  cases known : (w.surface a.object).property name with
  | none =>
    rw [getProperty_of_unknown known] at throws
    cases throws
  | some info =>
    cases allowed : info.readable with
    | false =>
      rw [getProperty_of_unreadable known allowed] at throws
      cases throws
      exact Or.inl ⟨name, Or.inl rfl⟩
    | true => exact explained_of_delivers (.property known allowed) throws

theorem explained_setProperty (throws : (a.setProperty entry name v w).value = .thrown thrown) :
    a.Explained entry w (.setProperty name v) thrown.error := by
  cases a.setProperty_ends entry name v w with
  | unknown _ ends =>
    rw [ends] at throws
    dsimp only at throws
    split at throws
    · cases throws
      exact Or.inl ⟨name, Or.inr (Or.inr rfl)⟩
    · cases throws
  | unconverted info fault known refused ends =>
    rw [ends] at throws
    cases throws
    exact Or.inr ⟨fault, .codec (.unconverted known (Codec.forSlot_eq_iff.mp refused)), rfl⟩
  | readOnly _ _ _ _ _ ends =>
    rw [ends] at throws
    cases throws
    exact Or.inl ⟨name, Or.inr (Or.inl rfl)⟩
  | faulted info value fault known converted writable faults ends =>
    rw [ends] at throws
    cases throws
    have sends : a.Sends w (.setProperty name v) (.setProperty name value) :=
      .property known (Codec.forSlot_eq_iff.mp converted) writable
    exact Or.inr ⟨fault, .sent sends faults, rfl⟩
  | answered _ _ _ ends =>
    rw [ends] at throws
    cases throws

theorem explained_getIndexed (throws : (a.getIndexed entry index w).value = .thrown thrown) :
    a.Explained entry w (.getIndexed index) thrown.error := by
  cases kind : (w.surface a.object).kind with
  | array => exact explained_of_delivers (.element kind) throws
  | plain =>
    rw [getIndexed_of_plain kind] at throws
    cases throws
  | reference =>
    cases single : (w.surface a.object).singleIndexer with
    | none =>
      rw [getIndexed_of_noIndexer kind single] at throws
      cases throws
    | some indexer =>
      cases allowed : indexer.readable with
      | false =>
        rw [getIndexed_of_unreadable kind single allowed] at throws
        cases throws
        exact Or.inl ⟨indexerName, Or.inl rfl⟩
      | true => exact explained_of_delivers (.item kind single allowed) throws

/-- A store in an array faults in the store, in the read after it, or in one of
the two conversions. -/
theorem explained_setIndexed_of_array (array : (w.surface a.object).kind = .array)
    (throws : (a.setIndexed entry index v w).value = .thrown thrown) :
    a.Explained entry w (.setIndexed index v) thrown.error := by
  rw [setIndexed_of_kind_array array] at throws
  cases taken : a.codec.fromEngine v with
  | error fault =>
    simp only [taken] at throws
    cases throws
    exact Or.inr ⟨fault, .codec (.element array taken), rfl⟩
  | ok value =>
    simp only [taken, setElement, bind, Act.bind] at throws
    cases stores : (callObject entry a.object (.setElement index.toNat value) w).value with
    | error fault =>
      simp only [stores] at throws
      cases throws
      exact Or.inr ⟨fault, .sent (.element array taken) stores, rfl⟩
    | ok returned =>
      simp only [stores, Act.bind, pure, Act.pure] at throws
      cases reads : (callObject entry a.object (.getElement index.toNat)
        (callObject entry a.object (.setElement index.toNat value) w).world).value with
      | error fault =>
        rw [reads] at throws
        cases throws
        exact Or.inr ⟨fault, .readBack array taken stores reads, rfl⟩
      | ok element =>
        cases refused : a.codec.toEngine element with
        | ok v =>
          simp only [reads, Codec.deliver, Except.bind, refused] at throws
          cases throws
        | error fault =>
          simp only [reads, Codec.deliver, Except.bind, refused] at throws
          cases throws
          exact Or.inr ⟨fault, .codec (.readBack array taken stores reads refused), rfl⟩

theorem explained_setIndexed (throws : (a.setIndexed entry index v w).value = .thrown thrown) :
    a.Explained entry w (.setIndexed index v) thrown.error := by
  by_cases array : (w.surface a.object).kind = .array
  · exact explained_setIndexed_of_array array throws
  · cases single : (w.surface a.object).singleIndexer with
    | none =>
      rw [setIndexed_of_noIndexer array single] at throws
      cases throws
    | some indexer =>
      cases allowed : indexer.writable with
      | false =>
        rw [setIndexed_of_readOnly array single allowed] at throws
        cases throws
        exact Or.inl ⟨indexerName, Or.inr (Or.inl rfl)⟩
      | true =>
        cases taken : a.codec.fromEngine v with
        | error fault =>
          rw [setIndexed_of_unconverted array single allowed taken] at throws
          cases throws
          exact Or.inr ⟨fault, .codec (.item array single allowed taken), rfl⟩
        | ok value => exact explained_of_delivers (.setItem array single allowed taken) throws

/-- Every exception is explained. -/
theorem explained_perform (throws : (a.perform entry access w).value = .thrown thrown) :
    a.Explained entry w access thrown.error := by
  cases access with
  | getProperty name => exact explained_getProperty throws
  | setProperty name v => exact explained_setProperty throws
  | getIndexed index => exact explained_getIndexed throws
  | setIndexed index v => exact explained_setIndexed throws

/-- What an access tells of a fault under some layers: it takes one off, or it
tells of all. -/
theorem report_wrapped {core : Fault} (bare : core.inner? = none) (k : Nat) :
    a.report w access (core.wrapped k) =
      if a.describes w access then .described (Fault.layers k ++ core.message)
      else .fault (core.wrapped (k - 1)) := by
  rw [report, ScriptError.ofDescription, ScriptError.ofFault, Fault.describe_wrapped bare,
    Fault.cause_wrapped bare]

end Adapter

/-! ## Layers cancel -/

/-- How faults cross the boundary of an adapter. -/
structure FaultLayers (entry : Entry σ V) (a : Adapter V) (w : World σ V) : Prop where
  /-- Every fault is a bare one under some number of layers. -/
  layered : ∀ fault : Fault, ∃ (core : Fault) (k : Nat),
    core.inner? = none ∧ fault = core.wrapped k
  /-- Whoever calls an instance itself gets the fault of a member under one layer
  more. -/
  called : ∀ {ref call fault}, w.Raises entry ref call fault →
    (callObject entry ref call w).value = .error (.targetInvocation fault)
  /-- So does a callable that invokes what it is bound to. -/
  dispatched : ∀ {binding args fault},
    w.Raises entry binding.target (.invoke binding.name args) fault →
    ((Trampoline.bound binding args).run entry binding w).value =
      .error (.targetInvocation fault)
  /-- A script gets the fault as the member raised it; only an indexed read of a
  reference object tells all layers, and the one of the instance first. -/
  raised : ∀ {access call} {core : Fault} (k : Nat), core.inner? = none → a.Sends w access call →
    w.Raises entry a.object call (core.wrapped k) →
    (a.perform entry access w).value = a.codec.throw
      (if a.describes w access then .described (Fault.layers (k + 1) ++ core.message)
        else .fault (core.wrapped k))
  /-- A fault of an instance that no member raised has no layer. -/
  bare : ∀ {ref call fault c state lease}, w.object? ref.id = some (.ofClass c state lease) →
    (callObject entry ref call w).value = .error fault →
    (∀ raised, ¬ w.Raises entry ref call raised) →
    fault.inner? = none ∧ w.RefusedBy entry ref call fault
  /-- A script gets such a fault, or its text, as it is. -/
  refused : ∀ {access call fault}, a.Sends w access call →
    (callObject entry a.object call w).value = .error fault → fault.inner? = none →
    (a.perform entry access w).value = a.codec.throw
      (if a.describes w access then .described fault.message else .fault fault)
  /-- A fault of the codec loses a layer if it has one, where it is not told of
  in full. -/
  codec : ∀ {access} {core : Fault} (k : Nat), core.inner? = none →
    a.CodecRefuses entry w access (core.wrapped k) →
    (a.perform entry access w).value = a.codec.throw
      (if a.describes w access then .described (Fault.layers k ++ core.message)
        else .fault (core.wrapped (k - 1)))
  /-- No exception tells of any other fault. -/
  explained : ∀ {access thrown}, (a.perform entry access w).value = .thrown thrown →
    a.Explained entry w access thrown.error

/-- The layer that an instance adds to a fault of its members and the layer that
the boundary removes cancel, however many layers the fault has of its own. -/
theorem fault_layers_cancel (entry : Entry σ V) (a : Adapter V) (w : World σ V) :
    FaultLayers entry a w where
  layered := Fault.exists_wrapped
  called := World.callObject_of_raises
  dispatched := World.callObject_of_raises
  raised := by
    intro access call core k isBare sends raises
    -- The instance made it one layer more; `report_wrapped` takes that one off again.
    have faults : (callObject entry a.object call w).value = .error (core.wrapped (k + 1)) :=
      World.callObject_of_raises raises
    rw [Adapter.perform_of_sends sends faults, Adapter.report_wrapped isBare]
    rfl
  bare := by
    intro ref call fault c state lease found faults unraised
    rcases World.raises_or_refusedBy found faults with ⟨raised, raises, _⟩ | refused
    · exact absurd raises (unraised raised)
    · exact refused
  refused := by
    intro access call fault sends faults isBare
    rw [Adapter.perform_of_sends sends faults, Adapter.report, ScriptError.ofDescription,
      ScriptError.ofFault, Fault.describe_of_bare isBare, Fault.cause_of_bare isBare]
  codec := by
    intro access core k isBare refuses
    rw [Adapter.perform_of_codecRefuses refuses, Adapter.report_wrapped isBare]
  explained := Adapter.explained_perform

/-- A class of which every read raises a fault that is under a layer already. -/
def brittle : HostClass Nat (Request Nat Value) (Answer Nat Value) where
  name := "Brittle"
  kind := .reference
  declarations := [.property "P" .int
    (some fun _ _ => .done (.error (.targetInvocation (.native "worn")))) none]
  indexer := some {
    elementType := .int
    getter := some fun _ _ => .done (.error (.targetInvocation (.native "worn")))
    setter := none }

/-- The one layer of the fault reaches the script; the description has two. -/
theorem brittle_keeps_own_layer :
    let w : World Nat Value := (World.empty.addObject (.ofClass brittle 0 .free)).2
    let a : Adapter Value :=
      { object := ⟨0, "Brittle"⟩, codec := .direct, options := .unset, trampoline := .bound }
    let fault : Fault := .targetInvocation (.native "worn")
    (a.perform none (.getProperty "P") w).value = a.codec.throw (.fault fault) ∧
      (a.perform none (.getIndexed 0) w).value =
        a.codec.throw (.described (Fault.layers 2 ++ "worn")) ∧
      (callObject none a.object (.getProperty "P") w).value = .error (.targetInvocation fault) := by
  intro w a fault
  have found : w.object? 0 = some (.ofClass brittle 0 .free) := rfl
  have read : w.Raises none a.object (.getProperty "P") (Fault.wrapped (.native "worn") 1) :=
    ⟨brittle, 0, .free, .readers 1, _, found, rfl, rfl, rfl⟩
  have index : indexArgument 0 = .int 0 := by decide
  have item : w.Raises none a.object (.getItem [indexArgument 0])
      (Fault.wrapped (.native "worn") 1) := by
    rw [index]
    exact ⟨brittle, 0, .free, .readers 1, _, found, rfl, rfl, rfl⟩
  have known : (w.surface a.object).property "P" = some ⟨"P", .int, true, false⟩ := rfl
  have single : (w.surface a.object).singleIndexer = some ⟨1, .int, true, false⟩ := rfl
  have named : a.describes w (.getProperty "P") = false := rfl
  have indexed : a.describes w (.getIndexed 0) = true := rfl
  have crosses := fault_layers_cancel none a w
  refine ⟨?_, ?_, crosses.called read⟩
  · have raised := crosses.raised 1 rfl (.delivered (.property known rfl)) read
    rw [named] at raised
    exact raised
  · have raised := crosses.raised 1 rfl (.delivered (.item rfl single rfl)) item
    rw [indexed] at raised
    exact raised

end Membrane
