import Membrane.Proofs.Description
import Membrane.Proofs.Lifetimes

/-!
# Invoking through callables

A callable that was resolved is bound to an object and a name, and stays so
whatever happens later. Under the default trampoline a call of it is an
invocation of the object, with the same outcome in the same world
(`callables_invoke_first_method`). An invocation goes to the first method of the
name that takes as many arguments; resolution looks at the first member only, so
that the two need not mean one declaration.
-/

namespace Membrane

variable {σ V : Type}

/-! ## The method that takes the arguments -/

namespace Declaration

variable {Request Answer : Type} {d : Declaration σ Request Answer} {position : Nat}
  {args : List Value} {selection : Selection σ Request Answer}

/-- Whether a member is a method that takes this number of arguments: exactly so
many, or any number. -/
def takes (count : Nat) : Declaration σ Request Answer → Bool
  | property .. => false
  | method _ arity _ => arity = none || arity = some count

theorem isSome_method? : (d.method? position args).isSome = d.takes args.length := by
  cases d with
  | property => rfl
  | method name arity body =>
    cases arity with
    | none => rfl
    | some count =>
      by_cases same : count = args.length <;> simp [method?, takes, same]

theorem method?_eq_none_iff : d.method? position args = none ↔ d.takes args.length = false := by
  rw [← isSome_method?, ← Option.not_isSome_iff_eq_none, Bool.not_eq_true]

theorem method?_eq_some_iff :
    d.method? position args = some selection ↔ ∃ name arity body, d = .method name arity body ∧
      (arity = none ∨ arity = some args.length) ∧
      selection = ⟨.method position, .writes body, args⟩ := by
  cases d with
  | property =>
    constructor
    · intro found
      cases found
    · rintro ⟨_, _, _, same, _⟩
      cases same
  | method name arity body =>
    constructor
    · intro found
      have takes : takes args.length (.method name arity body) = true := by
        rw [← isSome_method?, found]
        rfl
      have fits : arity = none ∨ arity = some args.length := by
        simpa [Declaration.takes] using takes
      refine ⟨name, arity, body, rfl, fits, ?_⟩
      rw [method?] at found
      split at found
      · exact (Option.some.inj found).symm
      · cases found
    · rintro ⟨_, _, _, same, fits, rfl⟩
      cases same
      rcases fits with rfl | rfl <;> simp [method?]

end Declaration

namespace HostClass

variable {Request Answer : Type} {c : HostClass σ Request Answer} {name : String}
  {args : List Value} {selection : Selection σ Request Answer}

/-- A method that takes a number of arguments is declared at a position, and no
member of its name before it does. -/
structure FirstMethod (c : HostClass σ Request Answer) (name : String) (count position : Nat)
    (body : σ → List Value → Program Request Answer (σ × Except Fault Value)) : Prop where
  declared : ∃ arity, c.declarations[position]? = some (.method name arity body) ∧
    (arity = none ∨ arity = some count)
  first : ∀ earlier < position, ∀ d, c.declarations[earlier]? = some d → d.name = name →
    d.takes count = false

/-- An invocation is served by the first method that takes its arguments. -/
theorem method?_eq_some_iff :
    c.method? name args = some selection ↔ ∃ position body,
      c.FirstMethod name args.length position body ∧
        selection = ⟨.method position, .writes body, args⟩ := by
  apply findSome?_named_eq_some_iff.trans
  constructor
  · rintro ⟨position, d, declared, named, gives, fails⟩
    obtain ⟨own, arity, body, rfl, fits, same⟩ := Declaration.method?_eq_some_iff.mp gives
    cases named
    refine ⟨position, body, ⟨⟨arity, declared, fits⟩, ?_⟩, same⟩
    intro earlier lower d' declared' named'
    exact Declaration.method?_eq_none_iff.mp (fails earlier lower d' declared' named')
  · rintro ⟨position, body, ⟨⟨arity, declared, fits⟩, first⟩, same⟩
    refine ⟨position, _, declared, rfl,
      Declaration.method?_eq_some_iff.mpr ⟨name, arity, body, rfl, fits, same⟩, ?_⟩
    intro earlier lower d' declared' named'
    exact Declaration.method?_eq_none_iff.mpr (first earlier lower d' declared' named')

/-- An invocation that no method takes is served by none. -/
theorem method?_eq_none_iff :
    c.method? name args = none ↔ ¬ c.Has (Declaration.takes args.length) name :=
  findSome?_named_eq_none_iff_not_has fun _ _ => Declaration.isSome_method?

end HostClass

section

variable {c : HostClass σ (Request σ V) (Answer σ V)} {name : String} {args : List Value}

theorem HostClass.select_invoke :
    c.select (.invoke name args) =
      (c.method? name args).elim (.error (c.surface.refusal (.invoke name args))) .ok := by
  rw [select]
  cases c.method? name args <;> rfl

theorem HostClass.FirstMethod.select_invoke {position : Nat}
    {body : σ → List Value → Routine σ V (σ × Except Fault Value)}
    (first : c.FirstMethod name args.length position body) :
    c.select (.invoke name args) = .ok ⟨.method position, .writes body, args⟩ := by
  rw [HostClass.select_invoke, method?_eq_some_iff.mpr ⟨position, body, first, rfl⟩]
  rfl

end

/-- How an instance in some state answers an invocation. -/
structure World.Invokes (w : World σ V) (entry : Entry σ V) (ref : ObjectRef)
    (c : HostClass σ (Request σ V) (Answer σ V)) (state : σ) (lease : Lease) (name : String)
    (args : List Value) : Prop where
  /-- Of the methods that take the arguments one is the first. -/
  chosen : c.Has (Declaration.takes args.length) name →
    ∃ position body, c.FirstMethod name args.length position body
  /-- It is all that runs, and is given the arguments. -/
  served : ∀ {position body}, c.FirstMethod name args.length position body → lease = .free →
    w.ServedBy entry ref (.invoke name args) state .writer
      ⟨.method position, .writes body, args⟩
  /-- Nothing runs if the instance is in use. -/
  inUse : ∀ {position body}, c.FirstMethod name args.length position body → lease ≠ .free →
    w.RefusedBy entry ref (.invoke name args) (.inUse c.name)
  /-- Nor does anything run if no method takes the arguments, in use or not. -/
  missing : ¬ c.Has (Declaration.takes args.length) name →
    w.RefusedBy entry ref (.invoke name args) (.missingMember c.name name)

theorem World.invokes {w : World σ V} {ref : ObjectRef}
    {c : HostClass σ (Request σ V) (Answer σ V)} {state : σ} {lease : Lease}
    (found : w.object? ref.id = some (.ofClass c state lease)) (entry : Entry σ V)
    (name : String) (args : List Value) : w.Invokes entry ref c state lease name args where
  chosen := by
    intro has
    cases chosen : c.method? name args with
    | none => exact absurd has (HostClass.method?_eq_none_iff.mp chosen)
    | some selection =>
      obtain ⟨position, body, first, _⟩ := HostClass.method?_eq_some_iff.mp chosen
      exact ⟨position, body, first⟩
  served := by
    rintro position body first rfl
    exact servedBy_of_select found first.select_invoke rfl
  inUse first used := refusedBy_inUse found first.select_invoke (Lease.write?_eq_none used)
  missing := by
    intro nobody
    apply refusedBy_of_select found
    rw [HostClass.select_invoke, HostClass.method?_eq_none_iff.mpr nobody]
    rfl

/-! ## Calls of callables -/

/-- A call of a function object is the invocation of a member of an adapter's
object: it has its value, its trace and the world after it, and an engine is given
the value by the adapter's codec. -/
def World.CallsThrough (w : World σ V) (function : Nat) (a : Adapter V) (name : String) : Prop :=
  ∃ f, w.function? function = some f ∧ ∀ entry values,
    let invoked := callObject entry a.object (.invoke name values) w
    (f.trampoline f.binding values).run entry f.binding w = invoked ∧
      ∀ args, args.mapM a.codec.fromEngine = .ok values →
        callFunction entry function args w =
          ⟨a.codec.deliver .ofFault invoked.value, invoked.trace, invoked.world⟩

theorem Dispatch.run_bound (entry : Entry σ V) (binding : Binding) (values : List Value) :
    (Trampoline.bound binding values).run entry binding =
      callObject entry binding.target (.invoke binding.name values) :=
  Act.bind_pure _

theorem FunctionObject.call_of_converted {f : FunctionObject V} {args : List V}
    {values : List Value} (converted : args.mapM f.codec.fromEngine = .ok values)
    (entry : Entry σ V) (w : World σ V) :
    let dispatched := (f.trampoline f.binding values).run entry f.binding w
    f.call entry args w =
      ⟨f.codec.deliver .ofFault dispatched.value, dispatched.trace, dispatched.world⟩ := by
  simp only [call, converted, bind, Act.bind, pure, Act.pure, List.append_nil]

theorem callFunction_of_function? {w : World σ V} {function : Nat} {f : FunctionObject V}
    (found : w.function? function = some f) (entry : Entry σ V) (args : List V) :
    callFunction entry function args w = f.call entry args w := by
  simp only [callFunction, bind, Act.bind, Act.look, found, List.nil_append]

theorem World.callsThrough_of_bound {w : World σ V} {function : Nat} {f : FunctionObject V}
    {a : Adapter V} {name : String} (found : w.function? function = some f)
    (binding : f.binding = ⟨a.object, name⟩) (trampoline : f.trampoline = Trampoline.bound)
    (codec : f.codec = a.codec) : w.CallsThrough function a name := by
  refine ⟨f, found, ?_⟩
  intro entry values invoked
  have dispatched : (f.trampoline f.binding values).run entry f.binding w = invoked := by
    rw [trampoline, Dispatch.run_bound, binding]
  refine ⟨dispatched, ?_⟩
  intro args converted
  rw [← codec] at converted ⊢
  rw [callFunction_of_function? found, FunctionObject.call_of_converted converted, dispatched]

/-! ## What a resolution gives -/

/-- A resolution that gives a callable leaves its adapter with this callable for
the name. -/
def Span.LeavesCached (span : Span σ V) : Prop :=
  ∀ i name function, span.event = .resolved i name (some function) →
    ∃ b, span.after.livingAdapter? i = some b ∧ b.cached? name = some function

theorem Course.leavesCached {direct} {w w' : World σ V} {t : List (Span σ V)}
    (course : Course direct w t w') : Throughout Span.LeavesCached t := by
  intro span occurs i name function resolved
  cases course.arises span occurs with
  | @hit w _ _ _ _ found cached =>
    cases resolved
    have entered := World.livingAdapter?_enterAdapter_of_adapter? found
    have unmoved := World.adapters_acquireFunction (w.enterAdapter i) function
    exact ⟨_, (World.livingAdapter?_congr unmoved i).trans entered, cached⟩
  | @minted _ _ _ _ _ _ made _ found isMethod hooks mint publish =>
    cases resolved
    -- The operation that runs on the adapter keeps it alive during the hooks.
    have entered := World.livingAdapter?_enterAdapter_of_adapter? found
    obtain ⟨b, living⟩ := (hooks.retains i).1.operated _ entered (Nat.succ_pos _)
    have still : made.2.livingAdapter? i = some b := by
      rw [mint]
      exact living
    rw [publish]
    refine ⟨b.remember name made.1, ?_, World.cached?_remember still⟩
    rw [World.livingAdapter?_publish still, if_pos rfl]
  | performed | refused | stored | called | read | written | replied | held | missed =>
    cases resolved

/-- Everywhere in a run that begins with nothing, what adapters have cached is bound
to their objects and to the names. -/
theorem Course.cachesBound {direct} {w' : World σ V} {t : List (Span σ V)}
    (course : Course direct .empty t w') {u : World σ V} (moment : u ∈ momentsOf t ++ [w']) :
    u.CachesBound :=
  (List.rel_of_pairwise_cons course.becomes moment).cachesBound World.cachesBound_empty

/-- At and after the end of a resolution that gives a callable, the callable is
called through the object and the name that it was resolved for. -/
theorem Course.callsThrough {direct} {run : Outcome σ V Unit}
    (course : Course direct .empty run.trace run.world) {span : Span σ V}
    (occurs : span.Occurs run.trace) {i function : Nat} {name : String}
    (resolved : span.event = .resolved i name (some function)) {a : Adapter V}
    (living : span.before.livingAdapter? i = some a)
    (default : a.trampoline = Trampoline.bound) {u : World σ V}
    (later : u = span.after ∨ Follows run span.after u) : u.CallsThrough function a name := by
  have ordered := course.becomes
  obtain ⟨b, after, cached⟩ := course.leavesCached span occurs i name function resolved
  have bound := course.cachesBound (List.mem_append_left [run.world] occurs.after_mem)
  have keeps : span.after.KeepsFunctions u := by
    rcases later with rfl | later
    · exact .of_functions rfl
    · exact (ordered.follows later).keepsFunctions
  -- The adapter has changed since, but not in what it wraps and how it calls it.
  rcases (ordered.across occurs).keepsAdapters.living i b after with
    new | ⟨a', living', object, codec, trampoline⟩
  · exact absurd (World.lt_length_of_livingAdapter? living) (Nat.not_lt_of_le new)
  · cases living.symm.trans living'
    obtain ⟨f, found, binding, trampoline', codec'⟩ :=
      bound.kept keeps after (Adapter.mem_methods_of_cached? cached)
    rw [object] at binding
    exact World.callsThrough_of_bound found binding
      (trampoline'.trans (trampoline.trans default)) (codec'.trans codec)

/-- In every run, at every depth and in any nesting of resolutions, a callable that
was resolved under the default trampoline is from then on the invocation of the
object that its adapter wraps, whatever became of the adapter; and an instance
answers an invocation by the first method that takes the arguments, or refuses it
and runs nothing. -/
theorem callables_invoke_first_method (depth : Nat) (p : Routine σ V Unit) :
    let run := performProgram (entryAt depth) p .empty
    Throughout (fun span => ∀ i name function, span.event = .resolved i name (some function) →
      ∃ a, span.before.livingAdapter? i = some a ∧ (a.trampoline = Trampoline.bound →
        ∀ u, u = span.after ∨ Follows run span.after u → u.CallsThrough function a name))
      run.trace ∧
    ∀ (w : World σ V) (ref : ObjectRef) (c : HostClass σ (Request σ V) (Answer σ V)) (state : σ)
      (lease : Lease), w.object? ref.id = some (.ofClass c state lease) →
      ∀ entry name args, w.Invokes entry ref c state lease name args := by
  intro run
  have course : Course none .empty run.trace run.world := performProgram_course depth p .empty
  constructor
  · intro span occurs i name function resolved
    have lawful := course.lawful span occurs
    rw [Span.Lawful, resolved] at lawful
    obtain ⟨a, living, _⟩ := lawful
    refine ⟨a, living, ?_⟩
    intro default u later
    exact course.callsThrough occurs resolved living default later
  · intro w ref c state lease found entry name args
    exact World.invokes found entry name args

/-- A class whose method takes one argument, or any number, or two; between them
the name is that of a property. -/
def overloaded : HostClass Nat (Request Nat Value) (Answer Nat Value) where
  name := "Overloaded"
  kind := .reference
  declarations := [
    .method "m" (some 1) fun state _ => .done (state, .ok (.int 1)),
    .property "m" .int (some fun _ _ => .done (.ok .null)) none,
    .method "m" none fun state _ => .done (state + 1, .ok (.int 0)),
    .method "m" (some 2) fun state _ => .done (state, .ok (.int 2))]
  indexer := none

/-- A method is resolved, and then the adapter is dropped. -/
def resolvingOverloads : Routine Nat Value Unit :=
  .request (.defineClass overloaded) fun _ => .request (.makeInstance 0 0) fun _ =>
    .request (.adapt 0 .direct none none .bound) fun _ =>
      .request (.resolve 0 "m" true none (.done ()) (.done ())) fun _ =>
        .request (.dropAdapter 0) fun _ => .done ()

/-- With two arguments the callable runs the method that takes any number, which is
declared before the one that takes two. -/
theorem dropped_overloads_invoke_first_method :
    let run := performProgram (entryAt 1) resolvingOverloads .empty
    let args : List Value := [.int 5, .int 6]
    let invoked := callObject none ⟨0, "Overloaded"⟩ (.invoke "m" args) run.world
    run.world.adapters = [none] ∧
      run.world.ServedBy none ⟨0, "Overloaded"⟩ (.invoke "m" args) 0 .writer
        ⟨.method 2, .writes fun state _ => .done (state + 1, .ok (.int 0)), args⟩ ∧
      callFunction none 1 args run.world = ⟨.found (.int 0), invoked.trace, invoked.world⟩ := by
  intro run args invoked
  obtain ⟨gives, invokes⟩ := callables_invoke_first_method 1 resolvingOverloads
  have occurs := Span.Occurs.inside (List.mem_of_getElem? (l := run.trace) (i := 3) rfl)
    (.here (List.mem_of_getElem? (i := 0) rfl))
  obtain ⟨a, living, calls⟩ := gives _ occurs 0 "m" 1 rfl
  have first : overloaded.FirstMethod "m" 2 2 fun state _ => .done (state + 1, .ok (.int 0)) := by
    refine ⟨⟨none, rfl, Or.inl rfl⟩, ?_⟩
    intro earlier lower d declared _
    have low : earlier = 0 ∨ earlier = 1 := by omega
    rcases low with rfl | rfl
    · cases declared
      rfl
    · cases declared
      rfl
  have served := (invokes run.world ⟨0, "Overloaded"⟩ overloaded 0 .free rfl none "m" args).served
    first rfl
  refine ⟨rfl, served, ?_⟩
  cases living
  have later : Follows run _ run.world :=
    (List.singleton_sublist.mpr occurs.after_mem).append (.refl [run.world])
  obtain ⟨_, _, through⟩ := calls rfl run.world (Or.inr later)
  exact (through none args).2 args rfl

end Membrane
