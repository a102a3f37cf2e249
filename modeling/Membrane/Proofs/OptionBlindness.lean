import Membrane.Proofs.HostActs
import Membrane.Proofs.NamedAccess
import Membrane.Proofs.Trace
import Membrane.Proofs.WithoutOptions

/-!
# What options influence

Options decide how the write of an unknown name is answered, and nothing else. A
run in which there is no such write, and in which options are neither read nor
set, goes the same way from any two worlds that are the same up to options.

An act is blind to options if it does so. What host objects do on their own is
blind, since it looks at no adapter; the requests are blind one by one, as far as
they spare the options.
-/

namespace Membrane

variable {σ V : Type}

/-! ## Runs that spare the options -/

/-- Any access but the write of a name that the object does not have. -/
def Access.WritesKnown (surface : Surface) : Access V → Prop
  | .setProperty name _ => surface.property name ≠ none
  | _ => True

/-- A request that does not depend on options: it neither reads nor sets them,
and writes a property only where there is one. -/
def Request.SparesOptions (w : World σ V) : Request σ V → Prop
  | .inspectAdapter _ => False
  | .setOptions _ _ => False
  | .access adapter operation =>
    ∀ a, w.adapter? adapter = some a → operation.WritesKnown (w.surface a.object)
  | _ => True

/-- A span that is no request, or a request that does not depend on options. -/
def Span.SparesOptions (span : Span σ V) : Prop :=
  ∀ r answer, span.event = .performed r answer → r.SparesOptions span.before

theorem Span.SparesOptions.of_isHost {span : Span σ V} (isHost : span.event.IsHost) :
    span.SparesOptions := by
  intro r answer happened
  rw [happened] at isHost
  exact isHost.elim

/-! ## Runs up to options -/

mutual

/-- A span with all options unset in the worlds at its ends, and inside it. -/
def Span.withoutOptions : Span σ V → Span σ V
  | ⟨event, before, after, inner⟩ =>
    ⟨event, before.withoutOptions, after.withoutOptions, traceWithoutOptions inner⟩
termination_by structural span => span

/-- A trace up to options: the same events in the same nesting. -/
def traceWithoutOptions : List (Span σ V) → List (Span σ V)
  | [] => []
  | first :: rest => first.withoutOptions :: traceWithoutOptions rest
termination_by structural trace => trace

end

theorem traceWithoutOptions_append (t u : List (Span σ V)) :
    traceWithoutOptions (t ++ u) = traceWithoutOptions t ++ traceWithoutOptions u := by
  induction t with
  | nil => rfl
  | cons first rest ih => rw [List.cons_append, traceWithoutOptions, ih]; rfl

variable {α β : Type}

/-- An outcome up to options: its value and its trace stay what they are. -/
def Outcome.withoutOptions (outcome : Outcome σ V α) : Outcome σ V α :=
  ⟨outcome.value, traceWithoutOptions outcome.trace, outcome.world.withoutOptions⟩

theorem Act.withoutOptions_bind (act : Act σ V α) (next : α → Act σ V β) (w : World σ V) :
    ((act >>= next) w).withoutOptions =
      let first := (act w).withoutOptions
      let second := (next (act w).value (act w).world).withoutOptions
      ⟨second.value, first.trace ++ second.trace, second.world⟩ := by
  rw [Outcome.withoutOptions]
  exact congrArg (Outcome.mk _ · _) (traceWithoutOptions_append _ _)

theorem Act.withoutOptions_within (event : α → Event σ V) (act : Act σ V α) (w : World σ V) :
    (act.within event w).withoutOptions =
      let inside := (act w).withoutOptions
      ⟨inside.value, [⟨event inside.value, w.withoutOptions, inside.world, inside.trace⟩],
        inside.world⟩ := rfl

/-! ## Blind acts -/

/-- An act gives the same from worlds that are the same up to options, where it
spares the options in one of them. -/
def Act.Blind (act : Act σ V α) : Prop :=
  ∀ w w' : World σ V, w.withoutOptions = w'.withoutOptions →
    Throughout Span.SparesOptions (act w).trace →
      (act w).withoutOptions = (act w').withoutOptions

namespace Act.Blind

theorem pure (a : α) : (Pure.pure a : Act σ V α).Blind := by
  intro w w' same _
  exact congrArg (Outcome.mk a []) same

theorem bind {act : Act σ V α} {next : α → Act σ V β} (blind : act.Blind)
    (each : ∀ a, (next a).Blind) : (act >>= next).Blind := by
  intro w w' same spared
  obtain ⟨spared, later⟩ := throughout_append.mp spared
  have first := blind w w' same spared
  have value : (act w).value = (act w').value := congrArg (·.value) first
  have world : (act w).world.withoutOptions = (act w').world.withoutOptions :=
    congrArg (·.world) first
  have second : (next (act w).value (act w).world).withoutOptions =
      (next (act w').value (act w').world).withoutOptions := by
    rw [← value]
    exact each _ _ _ world later
  rw [withoutOptions_bind, withoutOptions_bind, first, second]

theorem within {event : α → Event σ V} {act : Act σ V α} (blind : act.Blind) :
    (act.within event).Blind := by
  intro w w' same spared
  have inside := blind w w' same (throughout_singleton.mp spared).2
  rw [withoutOptions_within, withoutOptions_within, inside, same]

theorem look {f : World σ V → α} (unread : ∀ w, f w = f w.withoutOptions) :
    (Act.look f).Blind := by
  intro w w' same _
  have value : f w = f w' := by rw [unread w, unread w', same]
  simp only [Act.look, Outcome.withoutOptions, value, same]

theorem update {f : World σ V → World σ V}
    (unread : ∀ w, (f w).withoutOptions = f w.withoutOptions) : (Act.update f).Blind := by
  intro w w' same _
  simp only [Act.update, Outcome.withoutOptions, unread, same]

theorem change_of_alike {f : World σ V → α × World σ V}
    (alike : ∀ w w' : World σ V, w.withoutOptions = w'.withoutOptions →
      Prod.map id World.withoutOptions (f w) = Prod.map id World.withoutOptions (f w')) :
    (Act.change f).Blind := by
  intro w w' same _
  exact congrArg (fun changed => (⟨changed.1, [], changed.2⟩ : Outcome σ V α)) (alike w w' same)

theorem change {f : World σ V → α × World σ V}
    (unread : ∀ w, Prod.map id World.withoutOptions (f w) = f w.withoutOptions) :
    (Act.change f).Blind := by
  apply change_of_alike
  intro w w' same
  rw [unread, unread, same]

/-- An act on an adapter that is looked up first, and of which it does not read
the options. -/
theorem look_bind {found : World σ V → Option (Adapter V)}
    {next : Option (Adapter V) → Act σ V β}
    (unread : ∀ w, found w.withoutOptions = (found w).map Adapter.withoutOptions)
    (unread' : ∀ a : Adapter V, next (some a.withoutOptions) = next (some a))
    (each : ∀ a, (next a).Blind) : (Act.look found >>= next).Blind := by
  intro w w' same spared
  have adapters : (found w).map Adapter.withoutOptions = (found w').map Adapter.withoutOptions := by
    rw [← unread, ← unread, same]
  have acts : next (found w) = next (found w') := by
    cases first : found w with
    | none =>
      rw [first] at adapters
      rw [Option.map_eq_none_iff.mp adapters.symm]
    | some a =>
      rw [first] at adapters
      obtain ⟨a', second, stripped⟩ := Option.map_eq_some_iff.mp adapters.symm
      rw [second, ← unread' a, ← unread' a', stripped]
  show (next (found w) w).withoutOptions = (next (found w') w').withoutOptions
  rw [← acts]
  exact each (found w) w w' same spared

end Act.Blind

/-- Everything that host objects do on their own is blind to options. -/
theorem blind_closed : HostClosed (σ := σ) (V := V) fun _ act => act.Blind where
  pure := .pure
  bind := .bind
  look _ unread := .look fun w => (unread w _).symm
  modifyObject _ _ := .update fun _ => rfl
  allocate _ := .change fun _ => rfl
  within _ blind := blind.within

/-! ## Requests -/

section

variable {entry : Entry σ V}

theorem blind_withAdapter {act : Adapter V → Act σ V (Answer σ V)} (adapter : Nat)
    (unread : ∀ a, act a.withoutOptions = act a) (each : ∀ a, (act a).Blind) :
    (withAdapter adapter act).Blind := by
  refine .look_bind (fun w => w.adapter?_withoutOptions adapter) unread ?_
  intro found
  cases found with
  | none => exact .pure _
  | some a => exact each a

theorem blind_whileUsing {act : Act σ V α} (adapter : Nat) (blind : act.Blind) :
    (whileUsing adapter act).Blind :=
  (Act.Blind.update fun w => w.withoutOptions_enterAdapter adapter).bind fun _ =>
    blind.bind fun result =>
      (Act.Blind.update fun w => w.withoutOptions_leaveAdapter adapter).bind fun _ => .pure result

theorem blind_makeObject (object : HostObject σ (Request σ V) (Answer σ V)) :
    (makeObject object).Blind :=
  (Act.Blind.change fun _ => rfl).bind fun _ => .pure _

theorem blind_adapt (handle : Nat) (codec : Codec V) (text : Option String)
    (reject : Option Bool) (trampoline : Trampoline) :
    (adapt (σ := σ) handle codec text reject trampoline).Blind := by
  apply blind_closed.withHandle handle
  intro ref
  cases adapterOptions text reject with
  | error error => exact .pure _
  | ok options =>
    refine (Act.Blind.change_of_alike fun w w' same => ?_).bind fun _ => .pure _
    rw [World.withoutOptions_addAdapter, World.withoutOptions_addAdapter, same]

/-- Only the write of a name that the object does not have reads the options. -/
theorem Adapter.perform_withoutOptions {a : Adapter V} {operation : Access V} {w : World σ V}
    (known : operation.WritesKnown (w.surface a.object)) :
    a.withoutOptions.perform entry operation w = a.perform entry operation w := by
  cases operation with
  | getProperty name => rfl
  | getIndexed index => rfl
  | setIndexed index v => rfl
  | setProperty name v =>
    obtain ⟨info, known⟩ := Option.ne_none_iff_exists'.mp known
    have known' : (w.surface a.withoutOptions.object).property name = some info := known
    simp only [perform, setProperty, bind, Act.bind, Act.look, known, known']
    rfl

/-- A request that spares the options is blind if its meaning is, where it spares
them. -/
theorem blind_performed {r : Request σ V} {act : Act σ V (Answer σ V)}
    (blind : ∀ w w' : World σ V, w.withoutOptions = w'.withoutOptions → r.SparesOptions w →
      Throughout Span.SparesOptions (act w).trace →
        (act w).withoutOptions = (act w').withoutOptions) :
    (act.within (.performed r)).Blind := by
  intro w w' same spared
  obtain ⟨here, spared⟩ := throughout_singleton.mp spared
  have inside := blind w w' same (here r _ rfl) spared
  rw [Act.withoutOptions_within, Act.withoutOptions_within, inside, same]

/-- An access that does not write an unknown name goes as it would with the
options unset. -/
theorem access_of_writesKnown {adapter : Nat} {operation : Access V} {a : Adapter V}
    {w : World σ V} (found : w.adapter? adapter = some a)
    (known : operation.WritesKnown (w.surface a.object)) :
    perform entry (.access adapter operation) w =
      (do return .accessed (← whileUsing adapter (a.withoutOptions.perform entry operation)) :
        Act σ V (Answer σ V)) w := by
  have known' : operation.WritesKnown ((w.enterAdapter adapter).surface a.object) := known
  simp only [perform, withAdapter, whileUsing, bind, Act.bind, Act.look, Act.update, found,
    Adapter.perform_withoutOptions known', List.nil_append]

/-- An access that does not write an unknown name is blind. -/
theorem blind_access (obeys : entry.Obeys fun _ act => act.Blind) (adapter : Nat)
    (operation : Access V) :
    ((perform entry (.access adapter operation)).within
      (.performed (.access adapter operation))).Blind := by
  apply blind_performed
  intro w w' same known spared
  have adapters := World.map_adapter?_of_withoutOptions same adapter
  cases found : w.adapter? adapter with
  | none =>
    rw [found] at adapters
    have found' : w'.adapter? adapter = none := Option.map_eq_none_iff.mp adapters.symm
    simp only [perform, withAdapter, bind, Act.bind, Act.look, found, found']
    exact congrArg (Outcome.mk Answer.invalid []) same
  | some a =>
    rw [found] at adapters
    obtain ⟨a', found', stripped⟩ := Option.map_eq_some_iff.mp adapters.symm
    have wraps : a'.object = a.object := congrArg (·.object) stripped
    have known' : operation.WritesKnown (w'.surface a'.object) := by
      rw [wraps, ← World.surface_of_withoutOptions same]
      exact known a found
    rw [access_of_writesKnown found (known a found)] at spared ⊢
    rw [access_of_writesKnown found' known', stripped]
    exact ((blind_whileUsing adapter ((blind_closed.callClosed obeys).access _ operation)).bind
      fun _ => .pure _) w w' same spared

theorem blind_findCallable {duringWrap duringMake : Act σ V Unit} (adapter : Nat) (name : String)
    (wrapping : duringWrap.Blind) (making : duringMake.Blind) :
    (findCallable adapter name duringWrap duringMake).Blind := by
  refine .look_bind (fun w => w.livingAdapter?_withoutOptions adapter) (fun _ => rfl) ?_
  intro found
  cases found with
  | none => exact .pure none
  | some a =>
    dsimp only
    cases a.cached? name with
    | some function =>
      exact (Act.Blind.update fun w => w.withoutOptions_acquireFunction function).bind fun _ =>
        .pure _
    | none =>
      apply (blind_closed.surface a.object).bind
      intro surface
      by_cases isMethod : (surface.members name).head? = some .method
      · simp only [isMethod, if_true]
        refine .bind (.update fun _ => rfl) fun _ => wrapping.bind fun _ => making.bind fun _ => ?_
        refine .bind (.change fun _ => rfl) fun minted => ?_
        exact .bind (.change fun w => w.withoutOptions_publish adapter name minted) fun _ => .pure _
      · simp only [isMethod, if_false]
        exact .pure none

theorem blind_useFunction (obeys : entry.Obeys fun _ act => act.Blind) (function : Nat)
    (retain : Bool) (args : Option (List (Literal V))) :
    (useFunction entry function retain args).Blind := by
  have used : (do
      let result ← callAtOnce entry function args
      Act.update (·.releaseFunction function)
      return .resolved function result : Act σ V (Answer σ V)).Blind :=
    (blind_closed.callAtOnce obeys function args).bind fun _ =>
      (Act.Blind.update fun w => w.withoutOptions_releaseFunction function).bind fun _ => .pure _
  cases retain with
  | false => exact used
  | true => exact (Act.Blind.update fun w => w.withoutOptions_retain function).bind fun _ => used

theorem blind_resolveCallable {duringWrap duringMake : Act σ V Unit}
    (obeys : entry.Obeys fun _ act => act.Blind) (adapter : Nat) (name : String) (retain : Bool)
    (args : Option (List (Literal V))) (wrapping : duringWrap.Blind) (making : duringMake.Blind) :
    (resolveCallable entry adapter name retain args duringWrap duringMake).Blind := by
  refine blind_withAdapter adapter (fun _ => rfl) fun _ => ?_
  apply (blind_whileUsing adapter (blind_findCallable adapter name wrapping making).within).bind
  intro found
  cases found with
  | none => exact .pure _
  | some function => exact blind_useFunction obeys function retain args

theorem blind_callRetained (obeys : entry.Obeys fun _ act => act.Blind) (function : Nat)
    (args : List V) : (callRetained entry function args).Blind :=
  blind_closed.withRetained function fun f =>
    (Act.Blind.update fun w => w.withoutOptions_acquireFunction function).bind fun _ =>
      ((blind_closed.callClosed obeys).call f args).bind fun _ =>
        (Act.Blind.update fun w => w.withoutOptions_releaseFunction function).bind fun _ => .pure _

end

/-! ## Every run -/

mutual

/-- Every request is blind as far as it spares the options. -/
theorem perform_blind {entry : Entry σ V} (obeys : entry.Obeys fun _ act => act.Blind) :
    (r : Request σ V) → ((perform entry r).within (.performed r)).Blind
  | .ask _ => .within (.pure _)
  | .defineClass _ => .within (.bind (.change fun _ => rfl) fun _ => .pure _)
  | .makeInstance number state => .within
      (blind_closed.makeInstance blind_makeObject number state)
  | .makeFilled .. => .within (blind_makeObject _)
  | .makeArray element values => .within (blind_closed.makeArray blind_makeObject element values)
  | .makeHandwritten .. => .within (blind_makeObject _)
  | .inspect handle => .within (blind_closed.withHandle handle fun ref =>
      (blind_closed.surface ref).bind fun _ => .pure _)
  | .describe handle _ => .within (blind_closed.withHandle handle fun ref =>
      (blind_closed.surface ref).bind fun _ => .pure _)
  | .contents handle => .within (blind_closed.contents handle)
  | .call handle call => .within (blind_closed.withHandle handle fun ref =>
      (blind_closed.callObject obeys ref call).bind fun _ => .pure _)
  | .hold handle program => .within
      (blind_closed.holdState handle (performProgram_blind obeys program))
  | .adapt handle codec text reject trampoline => .within
      (blind_adapt handle codec text reject trampoline)
  | .dropAdapter adapter => .within
      (blind_withAdapter adapter (fun _ => rfl) fun _ =>
        (Act.Blind.update fun w => w.withoutOptions_dropAdapter adapter).bind fun _ =>
          (Act.Blind.look fun _ => rfl).bind fun _ => .pure _)
  | .inspectAdapter _ => blind_performed fun _ _ _ spares => absurd spares id
  | .setOptions .. => blind_performed fun _ _ _ spares => absurd spares id
  | .access adapter operation => blind_access obeys adapter operation
  | .resolve adapter name retain args duringWrap duringMake => .within
      (blind_resolveCallable obeys adapter name retain args (performProgram_blind obeys duringWrap)
        (performProgram_blind obeys duringMake))
  | .callFunction function args => .within (blind_callRetained obeys function args)
  | .inspectFunction function => .within (blind_closed.withRetained function fun _ => .pure _)
  | .release function => .within
      ((Act.Blind.look fun _ => rfl).bind fun _ =>
        (Act.Blind.update fun w => w.withoutOptions_release function).bind fun _ =>
          (Act.Blind.look fun _ => rfl).bind fun _ => .pure _)
termination_by structural r => r

/-- A program that belongs to a request is blind as far as it spares the
options. -/
theorem performProgram_blind {entry : Entry σ V} (obeys : entry.Obeys fun _ act => act.Blind) :
    (p : Routine σ V Unit) → (performProgram entry p).Blind
  | .done result => .pure result
  | .fresh _ next =>
    Act.Blind.bind (blind_closed.allocate _) fun ref => performProgram_blind obeys (next ref)
  | .held handle next =>
    Act.Blind.bind (blind_closed.handle? handle) fun ref => performProgram_blind obeys (next ref)
  | .room next => performProgram_blind obeys (next true)
  | .request r next =>
    Act.Blind.bind (perform_blind obeys r) fun answer =>
      performProgram_blind obeys (next (some answer))
termination_by structural p => p

end

theorem blind_entryAt (depth : Nat) :
    (entryAt depth : Entry σ V).Obeys fun _ act => act.Blind :=
  Entry.obeys_entryAt (fun _ obeys => perform_blind obeys) depth

/-- A write of a name that the object does not have runs nothing and changes
nothing, whatever the options are; they decide how it is answered. -/
theorem perform_write_of_unknown {w : World σ V} {entry : Entry σ V} {adapter : Nat}
    {a : Adapter V} {name : String} (found : w.adapter? adapter = some a)
    (unknown : (w.surface a.object).property name = none) (v : V) :
    perform entry (.access adapter (.setProperty name v)) w =
      ⟨.accessed (if a.options.rejectUnknown then a.codec.throw (.unknownMember name) else .absent),
        [], w⟩ := by
  have unknown' : ((w.enterAdapter adapter).surface a.object).property name = none := unknown
  simp only [perform, withAdapter, whileUsing, bind, Act.bind, Act.look, Act.update, pure, Act.pure,
    found, Adapter.perform, Adapter.setProperty_of_unknown unknown', List.append_nil,
    World.leaveAdapter_enterAdapter found]

/-- Options influence only the writes of unknown names. Two worlds that are the
same up to options and a run that neither reads nor sets them, in which every
write of a property, at any depth, finds the property: the run goes the same way
from both worlds, answer by answer and closure by closure, and leaves the same
objects and the same caches. And a write of an unknown name runs nothing and
changes nothing under any options. -/
theorem options_influence_unknown_writes_only (depth : Nat) :
    (∀ (p : Routine σ V Unit) (w w' : World σ V), w.withoutOptions = w'.withoutOptions →
      let run := performProgram (entryAt depth) p
      Throughout Span.SparesOptions (run w).trace →
        traceWithoutOptions (run w).trace = traceWithoutOptions (run w').trace ∧
        (run w).world.withoutOptions = (run w').world.withoutOptions ∧
        (∀ o, (run w).world.object? o = (run w').world.object? o) ∧
        ∀ i, ((run w).world.livingAdapter? i).map (·.methods) =
          ((run w').world.livingAdapter? i).map (·.methods)) ∧
    ∀ (w : World σ V) (adapter : Nat) (a : Adapter V) (name : String) (v : V),
      w.adapter? adapter = some a → (w.surface a.object).property name = none →
        let write := perform (entryAt depth) (.access adapter (.setProperty name v)) w
        write.trace = [] ∧ write.world = w := by
  constructor
  · intro p w w' same run spared
    have ends : (run w).withoutOptions = (run w').withoutOptions :=
      performProgram_blind (blind_entryAt depth) p w w' same spared
    have world : (run w).world.withoutOptions = (run w').world.withoutOptions :=
      congrArg (·.world) ends
    refine ⟨congrArg (·.trace) ends, world, World.object?_of_withoutOptions world, fun i => ?_⟩
    have adapters := World.map_livingAdapter?_of_withoutOptions world i
    have methods := congrArg (Option.map Adapter.methods) adapters
    rw [Option.map_map, Option.map_map] at methods
    exact methods
  · intro w adapter a name v found unknown
    rw [perform_write_of_unknown found unknown v]
    exact ⟨rfl, rfl⟩

/-- A class with a property whose setter reads a name that there is not, through
the first adapter. -/
def probing : HostClass Nat (Request Nat Value) (Answer Nat Value) where
  name := "Probing"
  kind := .reference
  declarations := [
    .property "Open" .int none (some fun state _ =>
      .request (.access 0 (.getProperty "Lost")) fun _ => .done (state + 1, .ok .null))]
  indexer := none

/-- An instance behind an adapter with given options. -/
def probed (options : Options) : World Nat Value :=
  ((World.empty.addObject (.ofClass probing 0 .free)).2.addAdapter
    { object := ⟨0, "Probing"⟩, codec := .direct, options := options, trampoline := .bound }).2

/-- A known name is written, and the setter reads an unknown one: the options are
not noticed. The write of an unknown name runs nothing. -/
theorem probed_options_go_unnoticed :
    let run := performProgram (entryAt 1)
      (.request (.access 0 (.setProperty "Open" (.int 5))) fun _ => .done ())
    probed ⟨true⟩ ≠ probed .unset ∧
      traceWithoutOptions (run (probed ⟨true⟩)).trace =
        traceWithoutOptions (run (probed .unset)).trace ∧
      (run (probed ⟨true⟩)).world.object? 0 = (run (probed .unset)).world.object? 0 ∧
      (perform (entryAt 1) (.access 0 (.setProperty "Lost" (.int 5))) (probed ⟨true⟩)).trace =
        [] := by
  intro run
  have spared : Throughout Span.SparesOptions (run (probed ⟨true⟩)).trace := by
    -- The write, the call of the object, its setter, and what the setter reads.
    refine throughout_singleton.mpr ⟨?_, throughout_singleton.mpr ⟨.of_isHost trivial,
      throughout_singleton.mpr ⟨.of_isHost trivial,
        throughout_singleton.mpr ⟨?_, throughout_nil _⟩⟩⟩⟩
    · rintro r answer ⟨⟩ a ⟨⟩ unknown
      cases unknown
    · rintro r answer ⟨⟩ a _
      trivial
  obtain ⟨blind, lost⟩ := options_influence_unknown_writes_only (σ := Nat) (V := Value) 1
  obtain ⟨trace, _, objects, _⟩ := blind _ (probed ⟨true⟩) (probed .unset) rfl spared
  refine ⟨?_, trace, objects 0, (lost _ 0 _ "Lost" (.int 5) rfl rfl).1⟩
  intro same
  cases congrArg (fun w => (w.adapter? 0).map (·.options)) same

end Membrane
