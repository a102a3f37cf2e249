import Membrane.Bridge.Perform
import Membrane.Proofs.CallActs

/-!
# What is closed under the acts of host objects

Whatever host objects do on their own is built from a few acts: they look at
the world around the adapters, change an object, make one, and mark the events
that happen. A predicate of acts that is closed under these holds of every call
of an object or of a function, of every dispatch and of every access through an
adapter, if it holds of the requests by which members re-enter the bridge.
-/

namespace Membrane

variable {σ V : Type}

/-- The events that happen at host objects, apart from requests and
resolutions. -/
def Event.IsHost : Event σ V → Prop
  | .called .. | .ran .. | .replied .. | .held .. => True
  | .performed .. | .resolved .. => False

/-- A predicate of acts is closed under what host objects do on their own. -/
structure HostClosed (P : ∀ α : Type, Act σ V α → Prop) : Prop where
  pure : ∀ {α : Type} (a : α), P α (.pure a)
  bind : ∀ {α β : Type} {act : Act σ V α} {next : α → Act σ V β},
    P α act → (∀ a, P β (next a)) → P β (act >>= next)
  /-- Anything but the adapters may be looked at. -/
  look : ∀ {α : Type} (f : World σ V → α),
    (∀ (w : World σ V) (adapters : List (Option (Adapter V))),
      f { w with adapters := adapters } = f w) → P α (.look f)
  modifyObject : ∀ (o : Nat)
    (f : HostObject σ (Request σ V) (Answer σ V) → HostObject σ (Request σ V) (Answer σ V)),
    P Unit (.update (·.modifyObject o f))
  allocate : ∀ object : HostObject σ (Request σ V) (Answer σ V),
    P ObjectRef (.change (·.allocate object))
  within : ∀ {α : Type} {event : α → Event σ V} {act : Act σ V α},
    (∀ a, (event a).IsHost) → P α act → P α (act.within event)

/-- A predicate holds of the requests that are performed. -/
def Entry.Obeys (entry : Entry σ V) (P : ∀ α : Type, Act σ V α → Prop) : Prop :=
  ∀ perform, entry = some perform → ∀ r, P (Answer σ V) ((perform r).within (.performed r))

/-- A predicate that requests inherit from the requests that they perform holds of
all, down to any depth. -/
theorem Entry.obeys_entryAt {P : ∀ α : Type, Act σ V α → Prop}
    (inherits : ∀ depth, (entryAt depth : Entry σ V).Obeys P → ∀ r : Request σ V,
      P (Answer σ V) ((perform (entryAt depth) r).within (.performed r))) (depth : Nat) :
    (entryAt depth : Entry σ V).Obeys P := by
  induction depth with
  | zero =>
    intro perform same
    cases same
  | succ depth ih =>
    intro perform same r
    cases same
    exact inherits depth ih r

namespace HostClosed

variable {P : ∀ α : Type, Act σ V α → Prop} {entry : Entry σ V}

theorem object? (closed : HostClosed P) (o : Nat) : P _ (.look (·.object? o)) :=
  closed.look _ fun _ _ => rfl

theorem surface (closed : HostClosed P) (ref : ObjectRef) : P _ (.look (·.surface ref)) :=
  closed.look _ fun _ _ => rfl

theorem handle? (closed : HostClosed P) (handle : Nat) : P _ (.look (·.handle? handle)) :=
  closed.look _ fun _ _ => rfl

/-- A program does what host objects do, and performs its requests. -/
theorem run {α : Type} (closed : HostClosed P) (obeys : entry.Obeys P) (p : Routine σ V α) :
    P α (p.run entry) := by
  induction p with
  | done result => exact closed.pure result
  | fresh template next ih => exact closed.bind (closed.allocate _) ih
  | held handle next ih => exact closed.bind (closed.handle? handle) ih
  | room next ih => exact ih _
  | request r next ih =>
    cases entry with
    | none => exact ih none
    | some perform => exact closed.bind (obeys perform rfl r) fun answer => ih (some answer)

theorem whileReading {α : Type} (closed : HostClosed P) (o : Nat) {act : σ → Act σ V α}
    (each : ∀ state, P α (act state)) : P _ (whileReading o act) := by
  apply closed.bind (closed.object? o)
  rintro (_ | ⟨c, state, lease⟩ | array | ⟨shown, replies⟩)
  · exact closed.pure none
  · dsimp only
    cases lease.read? with
    | none => exact closed.pure none
    | some borrowed =>
      exact closed.bind (closed.modifyObject o _) fun _ => closed.bind (each state) fun result =>
        closed.bind (closed.modifyObject o _) fun _ => closed.pure (some result)
  · exact closed.pure none
  · exact closed.pure none

theorem whileWriting {α : Type} (closed : HostClosed P) (o : Nat) {act : σ → Act σ V (σ × α)}
    (each : ∀ state, P (σ × α) (act state)) : P _ (whileWriting o act) := by
  apply closed.bind (closed.object? o)
  rintro (_ | ⟨c, state, lease⟩ | array | ⟨shown, replies⟩)
  · exact closed.pure none
  · dsimp only
    cases lease.write? with
    | none => exact closed.pure none
    | some borrowed =>
      exact closed.bind (closed.modifyObject o _) fun _ => closed.bind (each state) fun left =>
        closed.bind (closed.modifyObject o _) fun _ => closed.pure (some left.2)
  · exact closed.pure none
  · exact closed.pure none

theorem runMember (closed : HostClosed P) (obeys : entry.Obeys P) (o : Nat) (className : String)
    (selection : Selection σ (Request σ V) (Answer σ V)) :
    P _ (runMember entry o className selection) := by
  obtain ⟨slot, closure, args⟩ := selection
  cases closure with
  | reads run =>
    refine closed.bind (closed.whileReading o fun state =>
      closed.within (fun _ => trivial) (closed.run obeys (run state args))) ?_
    rintro (_ | outcome) <;> exact closed.pure _
  | writes run =>
    refine closed.bind (closed.whileWriting o fun state =>
      closed.within (fun _ => trivial) (closed.run obeys (run state args))) ?_
    rintro (_ | outcome) <;> exact closed.pure _

theorem callObject (closed : HostClosed P) (obeys : entry.Obeys P) (ref : ObjectRef)
    (call : HostCall) : P _ (callObject entry ref call) := by
  apply closed.within
  · exact fun _ => trivial
  apply closed.bind (closed.object? ref.id)
  rintro (_ | ⟨c, state, lease⟩ | array | ⟨shown, replies⟩)
  · exact closed.pure _
  · dsimp only
    cases c.select call with
    | error fault => exact closed.pure _
    | ok selection => exact closed.runMember obeys ref.id c.name selection
  · exact closed.bind (closed.modifyObject ref.id _) fun _ => closed.pure _
  · dsimp only
    cases replies call with
    | none => exact closed.pure _
    | some program =>
      exact closed.bind (closed.within (fun _ => trivial) (closed.run obeys program)) fun outcome =>
        closed.pure _

/-- Host objects call each other, and look at what others show. -/
theorem callClosed (closed : HostClosed P) (obeys : entry.Obeys P) : CallClosed entry P where
  pure := closed.pure
  bind := closed.bind
  surface := closed.surface
  callObject := closed.callObject obeys

theorem withHandle (closed : HostClosed P) (handle : Nat)
    {act : ObjectRef → Act σ V (Answer σ V)} (each : ∀ ref, P _ (act ref)) :
    P _ (withHandle handle act) := by
  apply closed.bind (closed.handle? handle)
  intro found
  cases found with
  | none => exact closed.pure _
  | some ref => exact each ref

theorem holdState (closed : HostClosed P) (handle : Nat) {program : Act σ V Unit}
    (holds : P _ program) : P _ (holdState handle program) := by
  apply closed.withHandle
  intro ref
  have held : P Unit (program.within fun _ => .held ref.id) :=
    closed.within (fun _ => trivial) holds
  apply closed.bind (closed.whileReading ref.id fun _ => held)
  intro result
  cases result with
  | none => exact closed.pure _
  | some _ => exact closed.pure _

theorem contents (closed : HostClosed P) (handle : Nat) :
    P _ (perform entry (.contents handle)) := by
  apply closed.withHandle
  intro ref
  apply closed.bind (closed.look (·.contents? ref) fun _ _ => rfl)
  intro contents
  cases contents with
  | none => exact closed.pure _
  | some contents => exact closed.pure _

/-! The requests that make an object make at most one. -/

theorem makeInstance (closed : HostClosed P) (make : ∀ object, P _ (makeObject object))
    (number : Nat) (state : σ) : P _ (perform entry (.makeInstance number state)) := by
  apply closed.bind (closed.look (·.classes[number]?) fun _ _ => rfl)
  intro found
  cases found with
  | none => exact closed.pure _
  | some hostClass => exact make _

theorem makeArray (closed : HostClosed P) (make : ∀ object, P _ (makeObject object))
    (element : ValueType) (values : List Value) :
    P _ (perform entry (.makeArray element values)) := by
  rw [perform]
  cases TypedArray.ofValues element values with
  | error fault => exact closed.pure _
  | ok a => exact make _

theorem withRetained (closed : HostClosed P) (function : Nat)
    {act : FunctionObject V → Act σ V (Answer σ V)} (each : ∀ f, P _ (act f)) :
    P _ (withRetained function act) := by
  apply closed.bind (closed.look _ fun _ _ => rfl)
  intro found
  cases found with
  | none => exact closed.pure _
  | some f => exact each f

theorem callFunction (closed : HostClosed P) (obeys : entry.Obeys P) (function : Nat)
    (args : List V) : P _ (callFunction entry function args) := by
  apply closed.bind (closed.look (·.function? function) fun _ _ => rfl)
  intro found
  cases found with
  | none => exact closed.pure _
  | some f => exact (closed.callClosed obeys).call f args

theorem callAtOnce (closed : HostClosed P) (obeys : entry.Obeys P) (function : Nat)
    (args : Option (List (Literal V))) : P _ (callAtOnce entry function args) := by
  cases args with
  | none => exact closed.pure _
  | some literals =>
    exact closed.bind (closed.run obeys _) fun args =>
      closed.bind (closed.callFunction obeys function args) fun _ => closed.pure _

end HostClosed

end Membrane
