import Membrane.Bridge.Act

/-!
# Calls to host objects

How a host object of the world answers a call. An array answers at once, a
handwritten object by its own program or by a refusal. An instance first finds
the member; only then does the member borrow the state, and a member that
cannot borrow it does not start. The borrow ends when the member returns,
however it returns. Faults of the member itself are wrapped in one invocation;
refusals are not.
-/

namespace Membrane

variable {σ V α : Type}

/-- The fault of a call that finds its instance in use. -/
def Fault.inUse (className : String) : Fault :=
  .native ("Object of type '" ++ className ++ "' is in use by a running member.")

/-- Runs an act while the state of an instance is borrowed for reading. -/
def whileReading (object : Nat) (act : σ → Act σ V α) : Act σ V (Option α) := do
  match ← Act.look (·.object? object) with
  | some (.ofClass _ state lease) =>
    match lease.read? with
    | some borrowed =>
      Act.update (·.modifyObject object (.withLease borrowed))
      let result ← act state
      Act.update (·.modifyObject object .endRead)
      return some result
    | none => return none
  | _ => return none

/-- Runs an act while the state of an instance is borrowed for writing; the
state that it leaves is the new one. -/
def whileWriting (object : Nat) (act : σ → Act σ V (σ × α)) : Act σ V (Option α) := do
  match ← Act.look (·.object? object) with
  | some (.ofClass _ state lease) =>
    match lease.write? with
    | some borrowed =>
      Act.update (·.modifyObject object (.withLease borrowed))
      let (state, result) ← act state
      Act.update (·.modifyObject object (.endWrite state))
      return some result
    | none => return none
  | _ => return none

/-- The outcome of a member at the instance's side of the boundary. -/
def Slot.conclude (slot : Slot) : Except Fault Value → Except Fault Value
  | .ok returned => .ok (slot.answer returned)
  | .error fault => .error (.targetInvocation fault)

/-- Runs the member found for a call. -/
def runMember (entry : Entry σ V) (object : Nat) (className : String)
    (selection : Selection σ (Request σ V) (Answer σ V)) : Act σ V (Except Fault Value) := do
  let event {α : Type} (_ : α) := Event.ran (σ := σ) (V := V) object selection.slot selection.args
  let result ←
    match selection.closure with
    | .reads run =>
      whileReading object fun state => ((run state selection.args).run entry).within event
    | .writes run =>
      whileWriting object fun state => ((run state selection.args).run entry).within event
  match result with
  | some outcome => return selection.slot.conclude outcome
  | none => return .error (.inUse className)

/-- How an object answers a call. -/
def answerCall (entry : Entry σ V) (ref : ObjectRef) (call : HostCall) :
    Act σ V (Except Fault Value) := do
  match ← Act.look (·.object? ref.id) with
  | some (.array a) =>
    let (outcome, changed) := HostObject.callArray a call
    Act.update (·.modifyObject ref.id fun _ => .array changed)
    return outcome
  | some (.ofClass hostClass _ _) =>
    match hostClass.select call with
    | .ok selection => runMember entry ref.id hostClass.name selection
    | .error fault => return .error fault
  | some (.handwritten surface replies) =>
    match replies call with
    | some program =>
      let outcome ← (program.run entry).within fun _ => .replied ref.id call
      return outcome.map call.answer
    | none => return .error (surface.refusal call)
  | none => return .error ((HostObject.blankSurface ref.typeName).refusal call)

/-- Calls an object. -/
def callObject (entry : Entry σ V) (ref : ObjectRef) (call : HostCall) :
    Act σ V (Except Fault Value) :=
  (answerCall entry ref call).within fun outcome => .called ref.id call outcome

/-- Follows a dispatch of a binding to its outcome. -/
def Dispatch.run (entry : Entry σ V) (binding : Binding) :
    Dispatch → Act σ V (Except Fault Value)
  | .done outcome => .pure outcome
  | .invoke args next =>
    (callObject entry binding.target (.invoke binding.name args)).bind fun outcome =>
      (next outcome).run entry binding

end Membrane
