import Membrane.Bridge.Calls

/-!
# How a call ends

A call is refused before anything runs, or it is answered by an array, by a
member of an instance, or by a handwritten object. Each way has one equation
that gives the outcome, the trace and the world; what uses calls uses these
equations and nothing else of `callObject`.
-/

namespace Membrane

variable {σ V : Type}

/-- Whether a slot holds a member that only reads the state of its instance. -/
def Slot.reads : Slot → Bool
  | getter _ | itemGetter => true
  | setter _ | method _ | itemSetter => false

/-- The lease under which a member runs, if the lease of its instance lets it
start. -/
def Closure.borrow? {Request Answer : Type} (closure : Closure σ Request Answer)
    (lease : Lease) : Option Lease :=
  match closure with
  | reads _ => lease.read?
  | writes _ => lease.write?

/-- A member runs on the state of its instance. What state it leaves is no part
of its outcome. -/
def Closure.run (closure : Closure σ (Request σ V) (Answer σ V)) (entry : Entry σ V) (state : σ)
    (args : List Value) : Act σ V (Except Fault Value) :=
  match closure with
  | reads run => (run state args).run entry
  | writes run => fun w =>
    let body := (run state args).run entry w
    ⟨body.value.2, body.trace, body.world⟩

namespace World

/-- The fault by which an object refuses a call before anything runs, if it
does. -/
def refusal? (w : World σ V) (ref : ObjectRef) (call : HostCall) : Option Fault :=
  match w.object? ref.id with
  | some (.ofClass hostClass _ lease) =>
    match hostClass.select call with
    | .ok selection =>
      if (selection.closure.borrow? lease).isSome then none else some (.inUse hostClass.name)
    | .error fault => some fault
  | some (.array _) => none
  | some (.handwritten surface replies) =>
    if (replies call).isSome then none else some (surface.refusal call)
  | none => some ((HostObject.blankSurface ref.typeName).refusal call)

end World

namespace Selection

variable {Request Answer : Type}

/-- A selection names a getter exactly when its closure only reads. -/
def Fits (selection : Selection σ Request Answer) : Prop :=
  selection.slot.reads = true ↔ ∃ run, selection.closure = .reads run

theorem fits_of_reads {slot : Slot} {run : σ → List Value → Program Request Answer (Except Fault Value)}
    {args : List Value} (reads : slot.reads = true) : Fits ⟨slot, .reads run, args⟩ :=
  ⟨fun _ => ⟨run, rfl⟩, fun _ => reads⟩

theorem fits_of_writes {slot : Slot}
    {run : σ → List Value → Program Request Answer (σ × Except Fault Value)}
    {args : List Value} (writes : slot.reads = false) : Fits ⟨slot, .writes run, args⟩ := by
  constructor
  · intro reads
    exact absurd (reads.symm.trans writes) Bool.noConfusion
  · rintro ⟨_, same⟩
    cases same

end Selection

namespace HostClass

variable {Request Answer : Type}

theorem fits_of_getter? {c : HostClass σ Request Answer} {name : String}
    {selection : Selection σ Request Answer} (found : c.getter? name = some selection) :
    selection.Fits := by
  obtain ⟨⟨declaration, position⟩, _, here⟩ := List.exists_of_findSome?_eq_some found
  cases declaration with
  | property name declaredType getter setter =>
    obtain ⟨run, _, rfl⟩ := Option.map_eq_some_iff.mp here
    exact Selection.fits_of_reads rfl
  | method name arity body => cases here

theorem fits_of_setter? {c : HostClass σ Request Answer} {name : String} {v : Value}
    {selection : Selection σ Request Answer} (found : c.setter? name v = some selection) :
    selection.Fits := by
  obtain ⟨⟨declaration, position⟩, _, here⟩ := List.exists_of_findSome?_eq_some found
  cases declaration with
  | property name declaredType getter setter =>
    obtain ⟨run, _, rfl⟩ := Option.map_eq_some_iff.mp here
    exact Selection.fits_of_writes rfl
  | method name arity body => cases here

theorem fits_of_method? {c : HostClass σ Request Answer} {name : String} {args : List Value}
    {selection : Selection σ Request Answer} (found : c.method? name args = some selection) :
    selection.Fits := by
  obtain ⟨⟨declaration, position⟩, _, here⟩ := List.exists_of_findSome?_eq_some found
  cases declaration with
  | property name declaredType getter setter => cases here
  | method name arity body =>
    simp only [Declaration.method?] at here
    split at here
    · cases here
      exact Selection.fits_of_writes rfl
    · cases here

theorem fits_of_itemGetter {c : HostClass σ Request Answer} {args : List Value}
    {selection : Selection σ Request Answer} (found : c.itemGetter args = .ok selection) :
    selection.Fits := by
  unfold itemGetter at found
  split at found
  · rename_i run index _ _
    cases extracted : index.extractLong with
    | ok n =>
      rw [extracted] at found
      cases found
      exact Selection.fits_of_reads rfl
    | error fault =>
      rw [extracted] at found
      cases found
  · cases found

theorem fits_of_itemSetter {c : HostClass σ Request Answer} {args : List Value}
    {selection : Selection σ Request Answer} (found : c.itemSetter args = .ok selection) :
    selection.Fits := by
  unfold itemSetter at found
  split at found
  · rename_i run index v _
    cases extracted : index.extractLong with
    | ok n =>
      rw [extracted] at found
      cases found
      exact Selection.fits_of_writes rfl
    | error fault =>
      rw [extracted] at found
      cases found
  · cases found

/-- Every member that a class finds for a call is named for what its closure
does: getters and item getters read, all others write. -/
theorem fits_of_select {c : HostClass σ Request Answer} {call : HostCall}
    {selection : Selection σ Request Answer} (selected : c.select call = .ok selection) :
    selection.Fits := by
  cases call with
  | getProperty name =>
    cases found : c.getter? name with
    | none => simp [select, found] at selected
    | some first =>
      simp only [select, found, Except.ok.injEq] at selected
      exact selected ▸ fits_of_getter? found
  | setProperty name v =>
    cases found : c.setter? name v with
    | none => simp [select, found] at selected
    | some first =>
      simp only [select, found, Except.ok.injEq] at selected
      exact selected ▸ fits_of_setter? found
  | invoke name args =>
    cases found : c.method? name args with
    | none => simp [select, found] at selected
    | some first =>
      simp only [select, found, Except.ok.injEq] at selected
      exact selected ▸ fits_of_method? found
  | getItem args => exact fits_of_itemGetter selected
  | setItem args => exact fits_of_itemSetter selected
  | getElement index => simp [select] at selected
  | setElement index v => simp [select] at selected

end HostClass

section Equations

variable {w : World σ V} {entry : Entry σ V} {ref : ObjectRef} {call : HostCall}
  {c : HostClass σ (Request σ V) (Answer σ V)} {state : σ} {lease borrowed : Lease}
  {slot : Slot} {args : List Value}

/-- An array answers by itself. -/
theorem callObject_of_array {a : TypedArray} (found : w.object? ref.id = some (.array a)) :
    let (outcome, changed) := HostObject.callArray a call
    let ended := w.modifyObject ref.id fun _ => .array changed
    callObject entry ref call w =
      ⟨outcome, [⟨.called ref.id call outcome, w, ended, []⟩], ended⟩ := by
  simp [callObject, Act.within, answerCall, found, bind, Act.bind, Act.look, Act.update, pure,
    Act.pure]

/-- A getter runs while its instance is borrowed by one reader more. -/
theorem callObject_of_reads {run : σ → List Value → Routine σ V (Except Fault Value)}
    (found : w.object? ref.id = some (.ofClass c state lease))
    (selected : c.select call = .ok ⟨slot, .reads run, args⟩)
    (lent : lease.read? = some borrowed) :
    let began := w.modifyObject ref.id (.withLease borrowed)
    let body := (run state args).run entry began
    let outcome := slot.conclude body.value
    let ended := body.world.modifyObject ref.id .endRead
    callObject entry ref call w =
      ⟨outcome, [⟨.called ref.id call outcome, w, ended,
        [⟨.ran ref.id slot args, began, body.world, body.trace⟩]⟩], ended⟩ := by
  simp [callObject, Act.within, answerCall, found, selected, runMember, whileReading, lent, bind,
    Act.bind, Act.look, Act.update, pure, Act.pure]

/-- A setter or a method runs while its instance is borrowed by it alone, and
leaves the state behind. -/
theorem callObject_of_writes {run : σ → List Value → Routine σ V (σ × Except Fault Value)}
    (found : w.object? ref.id = some (.ofClass c state lease))
    (selected : c.select call = .ok ⟨slot, .writes run, args⟩)
    (lent : lease.write? = some borrowed) :
    let began := w.modifyObject ref.id (.withLease borrowed)
    let body := (run state args).run entry began
    let outcome := slot.conclude body.value.2
    let ended := body.world.modifyObject ref.id (.endWrite body.value.1)
    callObject entry ref call w =
      ⟨outcome, [⟨.called ref.id call outcome, w, ended,
        [⟨.ran ref.id slot args, began, body.world, body.trace⟩]⟩], ended⟩ := by
  simp [callObject, Act.within, answerCall, found, selected, runMember, whileWriting, lent, bind,
    Act.bind, Act.look, Act.update, pure, Act.pure]

/-- A handwritten object that answers a call runs its own program. -/
theorem callObject_of_replies {surface : Surface}
    {replies : HostCall → Option (Routine σ V (Except Fault Value))}
    {program : Routine σ V (Except Fault Value)}
    (found : w.object? ref.id = some (.handwritten surface replies))
    (chosen : replies call = some program) :
    let body := program.run entry w
    let outcome := body.value.map call.answer
    callObject entry ref call w =
      ⟨outcome, [⟨.called ref.id call outcome, w, body.world,
        [⟨.replied ref.id call, w, body.world, body.trace⟩]⟩], body.world⟩ := by
  simp [callObject, Act.within, answerCall, found, chosen, bind, Act.bind, Act.look, pure,
    Act.pure]

/-- A call that is refused runs nothing and changes nothing. -/
theorem callObject_of_refusal {fault : Fault} (refused : w.refusal? ref call = some fault) :
    callObject entry ref call w =
      ⟨.error fault, [⟨.called ref.id call (.error fault), w, w, []⟩], w⟩ := by
  rw [World.refusal?] at refused
  cases found : w.object? ref.id with
  | none =>
    rw [found] at refused
    cases refused
    simp [callObject, Act.within, answerCall, found, bind, Act.bind, Act.look, pure, Act.pure]
  | some object =>
    rw [found] at refused
    cases object with
    | array a => cases refused
    | handwritten surface replies =>
      cases chosen : replies call with
      | some program => simp [chosen] at refused
      | none =>
        simp only [chosen, Option.isSome_none, Bool.false_eq_true, if_false,
          Option.some.injEq] at refused
        subst refused
        simp [callObject, Act.within, answerCall, found, chosen, bind, Act.bind, Act.look, pure,
          Act.pure]
    | ofClass hostClass state lease =>
      cases selected : hostClass.select call with
      | error unserved =>
        simp only [selected, Option.some.injEq] at refused
        subst refused
        simp [callObject, Act.within, answerCall, found, selected, bind, Act.bind, Act.look, pure,
          Act.pure]
      | ok selection =>
        rcases selection with ⟨slot, closure, args⟩
        cases lent : closure.borrow? lease with
        | some borrowed => simp [selected, lent] at refused
        | none =>
          simp only [selected, lent, Option.isSome_none, Bool.false_eq_true, if_false,
            Option.some.injEq] at refused
          subst refused
          cases closure with
          | reads run =>
            simp only [Closure.borrow?] at lent
            simp [callObject, Act.within, answerCall, found, selected, runMember, whileReading,
              lent, bind, Act.bind, Act.look, pure, Act.pure]
          | writes run =>
            simp only [Closure.borrow?] at lent
            simp [callObject, Act.within, answerCall, found, selected, runMember, whileWriting,
              lent, bind, Act.bind, Act.look, pure, Act.pure]

end Equations

/-! ## Served and refused calls -/

namespace World

/-- A call of an object ends in a fault, and nothing runs and nothing changes. -/
def RefusedBy (w : World σ V) (entry : Entry σ V) (ref : ObjectRef) (call : HostCall)
    (fault : Fault) : Prop :=
  callObject entry ref call w =
    ⟨.error fault, [⟨.called ref.id call (.error fault), w, w, []⟩], w⟩

/-- A call of an instance in some state is served by a member: the member is all
that runs, it does so under a lease, and the call ends as the member does. -/
def ServedBy (w : World σ V) (entry : Entry σ V) (ref : ObjectRef) (call : HostCall) (state : σ)
    (borrowed : Lease) (selection : Selection σ (Request σ V) (Answer σ V)) : Prop :=
  let began := w.modifyObject ref.id (.withLease borrowed)
  let body := selection.closure.run entry state selection.args began
  let outcome := selection.slot.conclude body.value
  ∃ ended, callObject entry ref call w =
    ⟨outcome, [⟨.called ref.id call outcome, w, ended,
      [⟨.ran ref.id selection.slot selection.args, began, body.world, body.trace⟩]⟩], ended⟩

variable {w : World σ V} {entry : Entry σ V} {ref : ObjectRef} {call : HostCall}
  {c : HostClass σ (Request σ V) (Answer σ V)} {state : σ} {lease borrowed : Lease}
  {selection : Selection σ (Request σ V) (Answer σ V)} {fault : Fault}

theorem refusedBy_of_refusal? (refused : w.refusal? ref call = some fault) :
    w.RefusedBy entry ref call fault :=
  callObject_of_refusal refused

/-- A call for which no member is found is refused as the class says. -/
theorem refusedBy_of_select (found : w.object? ref.id = some (.ofClass c state lease))
    (unserved : c.select call = .error fault) : w.RefusedBy entry ref call fault := by
  apply refusedBy_of_refusal?
  simp only [refusal?, found, unserved]

/-- A member that was found is refused where the lease of its instance does not
let it start. -/
theorem refusedBy_inUse (found : w.object? ref.id = some (.ofClass c state lease))
    (selected : c.select call = .ok selection) (taken : selection.closure.borrow? lease = none) :
    w.RefusedBy entry ref call (.inUse c.name) := by
  apply refusedBy_of_refusal?
  simp only [refusal?, found, selected, taken, Option.isSome_none, Bool.false_eq_true, if_false]

/-- A member that was found serves the call where the lease of its instance lets
it start. -/
theorem servedBy_of_select (found : w.object? ref.id = some (.ofClass c state lease))
    (selected : c.select call = .ok selection)
    (lent : selection.closure.borrow? lease = some borrowed) :
    w.ServedBy entry ref call state borrowed selection := by
  rcases selection with ⟨slot, closure, args⟩
  cases closure with
  | reads run => exact ⟨_, callObject_of_reads found selected lent⟩
  | writes run => exact ⟨_, callObject_of_writes found selected lent⟩

/-- A call that a member serves is not refused. -/
theorem ServedBy.not_refusedBy (served : w.ServedBy entry ref call state borrowed selection) :
    ¬ w.RefusedBy entry ref call fault := by
  intro refused
  obtain ⟨ended, runs⟩ := served
  have same := congrArg Outcome.trace (runs.symm.trans refused)
  simp at same

/-- A call is refused, answered by an array, served by a member of an instance
that may start, or answered by the program of a handwritten object. -/
theorem call_cases (w : World σ V) (ref : ObjectRef) (call : HostCall) :
    (∃ fault, w.refusal? ref call = some fault) ∨
      (∃ a, w.object? ref.id = some (.array a)) ∨
      (∃ c state lease borrowed selection, w.object? ref.id = some (.ofClass c state lease) ∧
        c.select call = .ok selection ∧ selection.closure.borrow? lease = some borrowed) ∨
      ∃ surface replies program, w.object? ref.id = some (.handwritten surface replies) ∧
        replies call = some program := by
  cases refusal : w.refusal? ref call with
  | some fault => exact Or.inl ⟨fault, rfl⟩
  | none =>
    cases found : w.object? ref.id with
    | none => simp [refusal?, found] at refusal
    | some object =>
      cases object with
      | array a => exact Or.inr (Or.inl ⟨a, rfl⟩)
      | handwritten surface replies =>
        cases chosen : replies call with
        | none => simp [refusal?, found, chosen] at refusal
        | some program => exact Or.inr (Or.inr (Or.inr ⟨surface, replies, program, rfl, chosen⟩))
      | ofClass c state lease =>
        cases selected : c.select call with
        | error fault => simp [refusal?, found, selected] at refusal
        | ok selection =>
          cases lent : selection.closure.borrow? lease with
          | none => simp [refusal?, found, selected, lent] at refusal
          | some borrowed =>
            exact Or.inr (Or.inr (Or.inl ⟨c, state, lease, borrowed, selection, rfl, selected,
              lent⟩))

end World

end Membrane
