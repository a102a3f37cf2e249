import Membrane.Bridge.Perform
import Membrane.Proofs.Adapters
import Membrane.Proofs.CallActs
import Membrane.Proofs.Calls
import Membrane.Proofs.Leases

/-!
# Courses of events

What a run can do to a world, as a relation: a course leads from a world to a
world and leaves a trace, and its rules say all that one step can change, with
the guards under which it does. Every request and every program takes its
course (`perform_course`, `performProgram_course`), whatever programs it
carries and however deeply members re-enter the bridge, so that what holds of
runs is shown by induction on courses and the interpreter is opened only here.

A course is marked with the adapter and the name that a request resolves
directly; resolutions further inside lie in requests of their own.
-/

namespace Membrane

variable {σ V : Type}

/-- The adapter and the name of which a request resolves the callable. -/
def Request.resolution? : Request σ V → Option (Nat × String)
  | .resolve adapter name .. => some (adapter, name)
  | _ => none

namespace World

/-- The world when a resolution is over: the operation on the adapter has
ended, and the engine keeps the callable if it wants to. -/
def handOver (w : World σ V) (adapter function : Nat) (retain : Bool) : World σ V :=
  if retain then (w.leaveAdapter adapter).retain function else w.leaveAdapter adapter

@[simp] theorem object?_handOver (w : World σ V) (adapter function : Nat) (retain : Bool) (i : Nat) :
    (w.handOver adapter function retain).object? i = w.object? i := by
  cases retain <;> simp [handOver]

end World

/-- A course of events from one world to another, with its trace. -/
inductive Course : Option (Nat × String) → World σ V → List (Span σ V) → World σ V → Prop where
  | still {direct} (w : World σ V) : Course direct w [] w
  | followed {direct} {w w' w'' : World σ V} {t t' : List (Span σ V)}
      (first : Course direct w t w') (second : Course direct w' t' w'') :
      Course direct w (t ++ t') w''
  /-- A request is performed. -/
  | performed {direct} {w w' : World σ V} {t : List (Span σ V)} (r : Request σ V)
      (answer : Answer σ V) (meanwhile : Course r.resolution? w t w') :
      Course direct w [⟨.performed r answer, w, w', t⟩] w'
  /-- A program makes an object. -/
  | allocated {direct} (w : World σ V) (template : Template) :
      Course direct w [] (w.allocate (.ofTemplate template)).2
  | declared {direct} (w : World σ V) (c : HostClass σ (Request σ V) (Answer σ V)) :
      Course direct w [] { w with classes := w.classes ++ [c] }
  /-- An object is made under a numbered handle. -/
  | made {direct} {w : World σ V} {object : HostObject σ (Request σ V) (Answer σ V)}
      (idle : object.lease = .free) : Course direct w [] (w.addObject object).2
  | wrapped {direct} {w : World σ V} {handle : Nat} {a : Adapter V}
      (found : w.handle? handle = some a.object) (named : a.named = true)
      (idle : a.running = 0) (empty : a.methods = []) : Course direct w [] (w.addAdapter a).2
  | dropped {direct} {w : World σ V} {adapter : Nat} {a : Adapter V}
      (found : w.adapter? adapter = some a) : Course direct w [] (w.dropAdapter adapter)
  | configured {direct} (w : World σ V) (adapter : Nat) (options : Options) :
      Course direct w [] (w.modifyAdapter adapter fun a => { a with options := options })
  | released {direct} (w : World σ V) (function : Nat) :
      Course direct w [] (w.release function)
  /-- A call is refused before anything runs. -/
  | refused {direct} {w : World σ V} {ref : ObjectRef} {call : HostCall} {fault : Fault}
      (refusal : w.refusal? ref call = some fault) :
      Course direct w [⟨.called ref.id call (.error fault), w, w, []⟩] w
  /-- An array answers a call. -/
  | stored {direct} {w : World σ V} {ref : ObjectRef} {call : HostCall} {a : TypedArray}
      (found : w.object? ref.id = some (.array a)) :
      Course direct w
        [⟨.called ref.id call (HostObject.callArray a call).1, w,
          w.modifyObject ref.id fun _ => .array (HostObject.callArray a call).2, []⟩]
        (w.modifyObject ref.id fun _ => .array (HostObject.callArray a call).2)
  /-- A getter runs. -/
  | read {direct} {w w' : World σ V} {t : List (Span σ V)} {ref : ObjectRef} {call : HostCall}
      {c : HostClass σ (Request σ V) (Answer σ V)} {state : σ} {lease borrowed : Lease}
      {selection : Selection σ (Request σ V) (Answer σ V)} (result : Except Fault Value)
      (found : w.object? ref.id = some (.ofClass c state lease))
      (selected : c.select call = .ok selection) (reads : selection.slot.reads = true)
      (lent : lease.read? = some borrowed)
      (body : Course none (w.modifyObject ref.id (.withLease borrowed)) t w') :
      Course direct w
        [⟨.called ref.id call (selection.slot.conclude result), w,
          w'.modifyObject ref.id .endRead,
          [⟨.ran ref.id selection.slot selection.args,
            w.modifyObject ref.id (.withLease borrowed), w', t⟩]⟩]
        (w'.modifyObject ref.id .endRead)
  /-- A setter or a method runs. -/
  | written {direct} {w w' : World σ V} {t : List (Span σ V)} {ref : ObjectRef} {call : HostCall}
      {c : HostClass σ (Request σ V) (Answer σ V)} {state : σ} {lease borrowed : Lease}
      {selection : Selection σ (Request σ V) (Answer σ V)} (result : Except Fault Value)
      (left : σ) (found : w.object? ref.id = some (.ofClass c state lease))
      (selected : c.select call = .ok selection) (writes : selection.slot.reads = false)
      (lent : lease.write? = some borrowed)
      (body : Course none (w.modifyObject ref.id (.withLease borrowed)) t w') :
      Course direct w
        [⟨.called ref.id call (selection.slot.conclude result), w,
          w'.modifyObject ref.id (.endWrite left),
          [⟨.ran ref.id selection.slot selection.args,
            w.modifyObject ref.id (.withLease borrowed), w', t⟩]⟩]
        (w'.modifyObject ref.id (.endWrite left))
  /-- A handwritten object replies. -/
  | replied {direct} {w w' : World σ V} {t : List (Span σ V)} {ref : ObjectRef} {call : HostCall}
      {surface : Surface} {replies : HostCall → Option (Routine σ V (Except Fault Value))}
      (outcome : Except Fault Value)
      (found : w.object? ref.id = some (.handwritten surface replies))
      (body : Course none w t w') :
      Course direct w
        [⟨.called ref.id call outcome, w, w', [⟨.replied ref.id call, w, w', t⟩]⟩] w'
  /-- The state of an instance is held for reading. -/
  | held {direct} {w w' : World σ V} {t : List (Span σ V)} {o : Nat}
      {c : HostClass σ (Request σ V) (Answer σ V)} {state : σ} {lease borrowed : Lease}
      (found : w.object? o = some (.ofClass c state lease)) (lent : lease.read? = some borrowed)
      (body : Course none (w.modifyObject o (.withLease borrowed)) t w') :
      Course direct w [⟨.held o, w.modifyObject o (.withLease borrowed), w', t⟩]
        (w'.modifyObject o .endRead)
  /-- An access runs on an adapter. -/
  | used {direct} {w w' : World σ V} {t : List (Span σ V)} {adapter : Nat} {a : Adapter V}
      (found : w.adapter? adapter = some a) (body : Course none (w.enterAdapter adapter) t w') :
      Course direct w t (w'.leaveAdapter adapter)
  /-- A function that the engine keeps is called. -/
  | recalled {direct} {w w' : World σ V} {t : List (Span σ V)} {function : Nat}
      (kept : function ∈ w.retained) (body : Course none (w.acquireFunction function) t w') :
      Course direct w t (w'.releaseFunction function)
  /-- An adapter has no callable for a name. -/
  | missed {w : World σ V} {adapter : Nat} {name : String} {a : Adapter V}
      (found : w.adapter? adapter = some a) (uncached : a.cached? name = none)
      (other : ((w.surface a.object).members name).head? ≠ some .method) :
      Course (some (adapter, name)) w
        [⟨.resolved adapter name none, w.enterAdapter adapter, w.enterAdapter adapter, []⟩] w
  /-- An adapter has the callable of a name, and the engine uses it. -/
  | hit {w w' : World σ V} {t : List (Span σ V)} {adapter function : Nat} {name : String}
      {a : Adapter V} {retain : Bool} (found : w.adapter? adapter = some a)
      (cached : a.cached? name = some function)
      (use : Course none (((w.enterAdapter adapter).acquireFunction function).handOver adapter
        function retain) t w') :
      Course (some (adapter, name)) w
        (⟨.resolved adapter name (some function), w.enterAdapter adapter,
          (w.enterAdapter adapter).acquireFunction function, []⟩ :: t)
        (w'.releaseFunction function)
  /-- An adapter makes a callable, while the engine may do anything, and the
  engine uses what is published in the end. -/
  | minted {w w₁ w₂ : World σ V} {t t' : List (Span σ V)} {adapter : Nat} {name : String}
      {a : Adapter V} {made published : Nat × World σ V} {retain : Bool}
      (found : w.adapter? adapter = some a) (uncached : a.cached? name = none)
      (isMethod : ((w.surface a.object).members name).head? = some .method)
      (hooks : Course none ((w.enterAdapter adapter).acquireHandle a.object.id) t w₁)
      (mint : made = w₁.mint ⟨a.object, name⟩ a.trampoline a.codec)
      (publish : published = made.2.publish adapter name made.1)
      (use : Course none (published.2.handOver adapter published.1 retain) t' w₂) :
      Course (some (adapter, name)) w
        (⟨.resolved adapter name (some published.1), w.enterAdapter adapter, published.2, t⟩ :: t')
        (w₂.releaseFunction published.1)

/-! ## Every act takes its course -/

/-- From every world an act takes a course. -/
def Act.Courses {α : Type} (direct : Option (Nat × String)) (act : Act σ V α) : Prop :=
  ∀ w, Course direct w (act w).trace (act w).world

/-- Requests of members are performed by acts that take their courses. -/
def Entry.Courses (entry : Entry σ V) : Prop :=
  ∀ perform, entry = some perform → ∀ r : Request σ V, (perform r).Courses r.resolution?

namespace Act

variable {α β : Type} {direct : Option (Nat × String)}

theorem courses_pure (a : α) : (pure a : Act σ V α).Courses direct :=
  fun w => .still w

theorem courses_look (f : World σ V → α) : (look f).Courses direct :=
  fun w => .still w

theorem Courses.bind {act : Act σ V α} {next : α → Act σ V β} (first : act.Courses direct)
    (second : ∀ a, (next a).Courses direct) : (act >>= next).Courses direct :=
  fun w => .followed (first w) (second _ _)

end Act

/-- A member's program takes its course if its requests do. -/
theorem Program.courses_run {α : Type} {direct} {entry : Entry σ V} (sound : entry.Courses)
    (p : Routine σ V α) : (p.run entry).Courses direct := by
  induction p with
  | done result => exact Act.courses_pure result
  | fresh template next ih =>
    intro w
    exact .followed (.allocated w template) (ih _ _)
  | held handle next ih =>
    intro w
    exact ih _ w
  | room next ih =>
    intro w
    exact ih _ w
  | request r next ih =>
    intro w
    cases entry with
    | none => exact ih none w
    | some perform => exact .followed (.performed r _ (sound perform rfl r w)) (ih _ _)

section

variable {direct : Option (Nat × String)} {entry : Entry σ V}

/-- Every call of an object is refused or answered as the rules say. -/
theorem courses_callObject (sound : entry.Courses) (ref : ObjectRef) (call : HostCall) :
    (callObject entry ref call).Courses direct := by
  intro w
  rcases w.call_cases ref call with
    ⟨fault, refusal⟩ | ⟨a, found⟩ | ⟨c, state, lease, borrowed, selection, found, selected, lent⟩
      | ⟨surface, replies, program, found, chosen⟩
  · rw [callObject_of_refusal refusal]
    exact .refused refusal
  · rw [callObject_of_array found]
    exact .stored found
  · have fits := HostClass.fits_of_select selected
    rcases selection with ⟨slot, closure, args⟩
    cases closure with
    | reads run =>
      rw [callObject_of_reads found selected lent]
      exact .read _ found selected (fits.mpr ⟨run, rfl⟩) lent ((run state args).courses_run sound _)
    | writes run =>
      have writes : slot.reads = false := by
        cases reads : slot.reads with
        | false => rfl
        | true =>
          obtain ⟨_, same⟩ := fits.mp reads
          cases same
      rw [callObject_of_writes found selected lent]
      exact .written _ _ found selected writes lent ((run state args).courses_run sound _)
  · rw [callObject_of_replies found chosen]
    exact .replied _ found (program.courses_run sound w)

/-- What only looks at objects and calls them takes its course, and resolves nothing
by itself. -/
theorem courses_callClosed (sound : entry.Courses) :
    CallClosed entry fun _ act => act.Courses direct where
  pure := Act.courses_pure
  bind := Act.Courses.bind
  surface _ := Act.courses_look _
  callObject := courses_callObject sound

theorem courses_callFunction (sound : entry.Courses) (function : Nat) (args : List V) :
    (callFunction entry function args).Courses direct := by
  apply (Act.courses_look _).bind
  intro found
  cases found with
  | none => exact Act.courses_pure _
  | some f => exact (courses_callClosed sound).call f args

/-! ## Resolutions -/

variable {w : World σ V} {adapter : Nat} {name : String} {a : Adapter V}
  {duringWrap duringMake : Act σ V Unit}

theorem findCallable_of_cached {function : Nat} (living : w.livingAdapter? adapter = some a)
    (cached : a.cached? name = some function) :
    findCallable adapter name duringWrap duringMake w =
      ⟨some function, [], w.acquireFunction function⟩ := by
  simp [findCallable, living, cached, bind, Act.bind, Act.look, Act.update, pure, Act.pure]

theorem findCallable_of_other (living : w.livingAdapter? adapter = some a)
    (uncached : a.cached? name = none)
    (other : ((w.surface a.object).members name).head? ≠ some .method) :
    findCallable adapter name duringWrap duringMake w = ⟨none, [], w⟩ := by
  simp [findCallable, living, uncached, other, bind, Act.bind, Act.look, pure, Act.pure]

theorem findCallable_of_method (living : w.livingAdapter? adapter = some a)
    (uncached : a.cached? name = none)
    (isMethod : ((w.surface a.object).members name).head? = some .method) :
    let wrapped := duringWrap (w.acquireHandle a.object.id)
    let ready := duringMake wrapped.world
    let made := ready.world.mint ⟨a.object, name⟩ a.trampoline a.codec
    let published := made.2.publish adapter name made.1
    findCallable adapter name duringWrap duringMake w =
      ⟨some published.1, wrapped.trace ++ ready.trace, published.2⟩ := by
  simp [findCallable, living, uncached, isMethod, bind, Act.bind, Act.look, Act.update,
    Act.change, pure, Act.pure]

theorem courses_callAtOnce (sound : entry.Courses) (function : Nat)
    (args : Option (List (Literal V))) : (callAtOnce entry function args).Courses direct := by
  cases args with
  | none => exact Act.courses_pure none
  | some literals =>
    apply (Program.courses_run sound _).bind
    intro args
    exact (courses_callFunction sound function args).bind fun result => Act.courses_pure _

theorem useFunction_eq (function : Nat) (retain : Bool) (args : Option (List (Literal V)))
    (w : World σ V) :
    let body := callAtOnce entry function args (if retain then w.retain function else w)
    useFunction entry function retain args w =
      ⟨.resolved function body.value, body.trace, body.world.releaseFunction function⟩ := by
  cases retain <;> simp [useFunction, bind, Act.bind, Act.update, pure, Act.pure]

theorem resolveCallable_of_none {retain : Bool} {args : Option (List (Literal V))}
    (missing : w.adapter? adapter = none) :
    resolveCallable entry adapter name retain args duringWrap duringMake w =
      ⟨.invalid, [], w⟩ := by
  simp only [resolveCallable, withAdapter, missing, bind, Act.bind, Act.look, pure, Act.pure,
    List.nil_append]

/-- A resolution on an adapter that is there is one span, and what the engine
does with a callable that it was given comes after it. -/
theorem resolveCallable_of_findCallable {outcome : Outcome σ V (Option Nat)} {retain : Bool}
    {args : Option (List (Literal V))} (found : w.adapter? adapter = some a)
    (finds : findCallable adapter name duringWrap duringMake (w.enterAdapter adapter) = outcome) :
    let span : Span σ V :=
      ⟨.resolved adapter name outcome.value, w.enterAdapter adapter, outcome.world, outcome.trace⟩
    let left := outcome.world.leaveAdapter adapter
    resolveCallable entry adapter name retain args duringWrap duringMake w =
      match outcome.value with
      | some function =>
        let used := useFunction entry function retain args left
        ⟨used.value, span :: used.trace, used.world⟩
      | none => ⟨.accessed .absent, [span], left⟩ := by
  subst finds
  simp only [resolveCallable, withAdapter, whileUsing, resolveMethod, Act.within, found, bind,
    Act.bind, Act.look, Act.update, pure, Act.pure, List.nil_append, List.append_nil]
  cases (findCallable adapter name duringWrap duringMake (w.enterAdapter adapter)).value <;> rfl

theorem courses_resolveCallable (sound : entry.Courses) (retain : Bool)
    (args : Option (List (Literal V))) (wrapping : duringWrap.Courses none)
    (making : duringMake.Courses none) :
    (resolveCallable entry adapter name retain args duringWrap duringMake).Courses
      (some (adapter, name)) := by
  intro w
  cases found : w.adapter? adapter with
  | none =>
    rw [resolveCallable_of_none found]
    exact .still w
  | some a =>
    have entered := World.livingAdapter?_enterAdapter_of_adapter? found
    cases cached : a.cached? name with
    | some function =>
      rw [resolveCallable_of_findCallable found (findCallable_of_cached entered cached)]
      simp only [useFunction_eq]
      exact .hit found cached (courses_callAtOnce sound function args _)
    | none =>
      by_cases isMethod : ((w.surface a.object).members name).head? = some .method
      · rw [resolveCallable_of_findCallable found (findCallable_of_method entered cached isMethod)]
        simp only [useFunction_eq]
        exact .minted found cached isMethod (.followed (wrapping _) (making _)) rfl rfl
          (courses_callAtOnce sound _ args _)
      · rw [resolveCallable_of_findCallable found (findCallable_of_other entered cached isMethod)]
        simp only [World.leaveAdapter_enterAdapter found]
        exact .missed found cached isMethod

end

/-! ## Every request takes its course -/

section

variable {direct : Option (Nat × String)} {entry : Entry σ V}

theorem courses_withHandle {act : ObjectRef → Act σ V (Answer σ V)} {handle : Nat}
    (each : ∀ w ref, w.handle? handle = some ref →
      Course direct w (act ref w).trace (act ref w).world) :
    (withHandle handle act).Courses direct := by
  intro w
  cases found : w.handle? handle with
  | none =>
    simp only [withHandle, bind, Act.bind, Act.look, found]
    exact .still w
  | some ref =>
    simp only [withHandle, bind, Act.bind, Act.look, found]
    exact each w ref found

theorem courses_withAdapter {act : Adapter V → Act σ V (Answer σ V)} {adapter : Nat}
    (each : ∀ w a, w.adapter? adapter = some a →
      Course direct w (act a w).trace (act a w).world) :
    (withAdapter adapter act).Courses direct := by
  intro w
  cases found : w.adapter? adapter with
  | none =>
    simp only [withAdapter, bind, Act.bind, Act.look, found]
    exact .still w
  | some a =>
    simp only [withAdapter, bind, Act.bind, Act.look, found]
    exact each w a found

theorem courses_makeObject {object : HostObject σ (Request σ V) (Answer σ V)}
    (idle : object.lease = .free) : (makeObject object).Courses direct :=
  fun _ => .made idle

theorem courses_adapt (handle : Nat) (codec : Codec V) (text : Option String)
    (reject : Option Bool) (trampoline : Trampoline) :
    (adapt (σ := σ) handle codec text reject trampoline).Courses direct := by
  apply courses_withHandle
  intro w ref found
  cases adapterOptions text reject with
  | error error => exact .still w
  | ok options => exact .wrapped found rfl rfl rfl

/-- A state is held if a reader is let in; otherwise nothing happens. -/
theorem courses_holdState (handle : Nat) {program : Act σ V Unit} (takes : program.Courses none) :
    (holdState handle program).Courses direct := by
  apply courses_withHandle
  intro w ref _
  cases found : w.object? ref.id with
  | none =>
    simp only [whileReading, bind, Act.bind, Act.look, pure, Act.pure, found, List.append_nil]
    exact .still w
  | some object =>
    cases object with
    | array a =>
      simp only [whileReading, bind, Act.bind, Act.look, pure, Act.pure, found, List.append_nil]
      exact .still w
    | handwritten surface replies =>
      simp only [whileReading, bind, Act.bind, Act.look, pure, Act.pure, found, List.append_nil]
      exact .still w
    | ofClass c state lease =>
      cases lent : lease.read? with
      | none =>
        simp only [whileReading, bind, Act.bind, Act.look, pure, Act.pure, found, lent,
          List.append_nil]
        exact .still w
      | some borrowed =>
        simp only [whileReading, Act.within, bind, Act.bind, Act.look, Act.update, pure, Act.pure,
          found, lent, List.append_nil, List.nil_append]
        exact .held found lent (takes _)

theorem courses_callRetained (sound : entry.Courses) (function : Nat) (args : List V) :
    (callRetained entry function args).Courses direct := by
  intro w
  by_cases kept : function ∈ w.retained
  · cases found : w.function? function with
    | none =>
      simp only [callRetained, withRetained, bind, Act.bind, Act.look, kept, if_true, found]
      exact .still w
    | some f =>
      simp only [callRetained, withRetained, bind, Act.bind, Act.look, Act.update, pure, Act.pure,
        kept, if_true, found, List.nil_append, List.append_nil]
      exact .recalled kept ((courses_callClosed sound).call f args _)
  · simp only [callRetained, withRetained, bind, Act.bind, Act.look, kept, if_false]
    exact .still w

end

mutual

/-- Every request takes its course, at any depth to which members re-enter. -/
theorem perform_courses {entry : Entry σ V} (sound : entry.Courses) :
    (r : Request σ V) → (perform entry r).Courses r.resolution?
  | .ask query => Act.courses_pure _
  | .defineClass hostClass => fun w => .declared w hostClass
  | .makeInstance number state => fun w => by
    cases found : w.classes[number]? with
    | none =>
      simp only [perform, bind, Act.bind, Act.look, found]
      exact .still w
    | some hostClass =>
      simp only [perform, bind, Act.bind, Act.look, found]
      exact courses_makeObject rfl w
  | .makeFilled element length => courses_makeObject rfl
  | .makeArray element values => by
    rw [perform]
    cases TypedArray.ofValues element values with
    | error fault => exact Act.courses_pure _
    | ok a => exact courses_makeObject rfl
  | .makeHandwritten surface replies => courses_makeObject rfl
  | .inspect handle => courses_withHandle fun w ref found => .still w
  | .describe handle name => courses_withHandle fun w ref found => .still w
  | .contents handle => courses_withHandle fun w ref found => by
    simp only [bind, Act.bind, Act.look]
    cases w.contents? ref with
    | none => exact .still w
    | some contents => exact .still w
  | .call handle call => courses_withHandle fun w ref _ =>
    ((courses_callObject sound ref call).bind fun outcome => Act.courses_pure _) w
  | .hold handle program => courses_holdState handle (performProgram_courses sound program)
  | .adapt handle codec text reject trampoline => courses_adapt handle codec text reject trampoline
  | .dropAdapter adapter => courses_withAdapter fun w a found => .dropped found
  | .inspectAdapter adapter => courses_withAdapter fun w a found => .still w
  | .setOptions adapter options => courses_withAdapter fun w a found =>
    .configured w adapter options
  | .access adapter access => courses_withAdapter fun w a found => by
    simp only [whileUsing, bind, Act.bind, Act.update, pure, Act.pure, List.nil_append,
      List.append_nil]
    exact .used found ((courses_callClosed sound).access a access _)
  | .resolve adapter name retain args duringWrap duringMake =>
    courses_resolveCallable sound retain args (performProgram_courses sound duringWrap)
      (performProgram_courses sound duringMake)
  | .callFunction function args => courses_callRetained sound function args
  | .inspectFunction function => fun w => by
    by_cases kept : function ∈ w.retained
    · cases found : w.function? function with
      | none =>
        simp only [perform, withRetained, bind, Act.bind, Act.look, kept, if_true, found]
        exact .still w
      | some f =>
        simp only [perform, withRetained, bind, Act.bind, Act.look, kept, if_true, found]
        exact .still w
    · simp only [perform, withRetained, bind, Act.bind, Act.look, kept, if_false]
      exact .still w
  | .release function => fun w => .released w function
termination_by structural r => r

/-- A program that belongs to a request takes its course. -/
theorem performProgram_courses {entry : Entry σ V} (sound : entry.Courses) :
    (p : Routine σ V Unit) → (performProgram entry p).Courses none
  | .done result => Act.courses_pure result
  | .fresh template next => fun w =>
    .followed (.allocated w template) (performProgram_courses sound (next _) _)
  | .held _ next => fun w => performProgram_courses sound (next _) w
  | .room next => performProgram_courses sound (next true)
  | .request r next => fun w =>
    .followed (.performed r _ (perform_courses sound r w)) (performProgram_courses sound (next _) _)
termination_by structural p => p

end

/-- Members that re-enter down to any depth have their requests performed by
courses. -/
theorem entryAt_courses (depth : Nat) : (entryAt depth : Entry σ V).Courses := by
  induction depth with
  | zero =>
    intro perform same
    cases same
  | succ depth ih =>
    intro perform same r
    cases same
    exact perform_courses ih r

/-- A run from the outside takes its course. -/
theorem performProgram_course (depth : Nat) (p : Routine σ V Unit) (w : World σ V) :
    Course none w (performProgram (entryAt depth) p w).trace
      (performProgram (entryAt depth) p w).world :=
  performProgram_courses (entryAt_courses depth) p w

theorem perform_course (depth : Nat) (r : Request σ V) (w : World σ V) :
    Course r.resolution? w (perform (entryAt depth) r w).trace
      (perform (entryAt depth) r w).world :=
  perform_courses (entryAt_courses depth) r w

end Membrane
