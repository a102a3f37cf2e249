import Mathlib.Data.List.Forall2
import Membrane.Proofs.HostActs
import Membrane.Proofs.Trace
import Membrane.Proofs.Unseen

/-!
# Two acts side by side

Two acts are twins if from worlds that are alike they give the same, leave traces
that are alike, and end in worlds that are alike. Traces are alike if the same
happens in them in the same nesting; what the engine does while it makes a callable
is not compared, and where resolutions may come and go, requests for them may stand
in either trace alone.

What is said of the two runs before they are compared depends on the liberty. Where
accesses may go through other adapters, the two adapters of every access are over the
same object with the same codec and options at that moment. Where resolutions may
come and go, both runs keep to the tables of callables, and what is used is kept by the
engine in both or in neither.
-/

namespace Membrane

variable {σ V : Type}

/-! ## What happens along a trace -/

/-- A callable was asked for and found, or not. -/
def Event.IsResolution : Event σ V → Prop
  | .resolved .. => True
  | _ => False

section Gather

variable {β : Type}

mutual

/-- What is told along a span, in the order in which things begin. What the engine
does while a callable is made is passed over. -/
def Span.gather (tell : Span σ V → List β) : Span σ V → List β
  | ⟨.resolved .., _, _, _⟩ => []
  | ⟨event, before, after, inner⟩ => tell ⟨event, before, after, inner⟩ ++ gather tell inner
termination_by structural span => span

def gather (tell : Span σ V → List β) : List (Span σ V) → List β
  | [] => []
  | first :: rest => first.gather tell ++ gather tell rest
termination_by structural trace => trace

end

variable {tell : Span σ V → List β}

theorem gather_append (t u : List (Span σ V)) :
    gather tell (t ++ u) = gather tell t ++ gather tell u := by
  induction t with
  | nil => rfl
  | cons first rest ih => rw [List.cons_append, gather, ih, gather, List.append_assoc]

theorem Span.gather_of_not_isResolution {span : Span σ V} (other : ¬ span.event.IsResolution) :
    span.gather tell = tell span ++ Membrane.gather tell span.inner := by
  obtain ⟨event, before, after, inner⟩ := span
  cases event with
  | resolved => exact absurd trivial other
  | performed | called | ran | replied | held => rfl

end Gather

/-- The number that the request names with which a span begins, if it names one, and the
world at that moment. -/
def Span.names (name? : Request σ V → Option Nat) (span : Span σ V) : List (World σ V × Nat) :=
  match span.event with
  | .performed r _ => (name? r).toList.map (span.before, ·)
  | _ => []

theorem Span.names_performed {name? : Request σ V → Option Nat} {r : Request σ V} {n : Nat}
    (names : name? r = some n) {answer : Answer σ V} {before after : World σ V}
    {inner : List (Span σ V)} :
    Span.names name? ⟨.performed r answer, before, after, inner⟩ = [(before, n)] := by
  rw [Span.names]
  dsimp only
  rw [names]
  rfl

/-- The adapter through which an access is made. -/
def Request.adapter? : Request σ V → Option Nat
  | access i _ => some i
  | _ => none

/-- The function object that is used. -/
def Request.function? : Request σ V → Option Nat
  | callFunction n _ | inspectFunction n | release n => some n
  | _ => none

/-- The result that an answer to an access tells, if the adapter was there. -/
def Answer.result? : Answer σ V → Option (AccessResult V)
  | accessed result => some result
  | _ => none

/-- The number of callables alive that an answer tells. -/
def Answer.live? : Answer σ V → Option Nat
  | live count | released _ count => some count
  | adapter info => some info.live
  | _ => none

/-- A number of callables alive that is told at an event is that of the world after
it. -/
def Event.Tells (event : Event σ V) (after : World σ V) : Prop :=
  match event with
  | .performed _ answer => ∀ count, answer.live? = some count → count = after.liveFunctions
  | _ => True

/-- What is done at host objects or through adapters. -/
inductive Deed (σ V : Type) where
  /-- An access was made and answered. -/
  | accessed (operation : Access V) (result : Option (AccessResult V))
  /-- A host object was called, a member ran, an object replied, a state was held. -/
  | host (event : Event σ V)

/-- The deed that begins with a span, if it is one. -/
def Span.deed? (span : Span σ V) : List (Deed σ V) :=
  match span.event with
  | .performed (.access _ operation) answer => [.accessed operation answer.result?]
  | .performed .. | .resolved .. => []
  | event => [.host event]

/-- The deeds of a run, in their order. -/
def deedsOf (trace : List (Span σ V)) : List (Deed σ V) :=
  gather Span.deed? trace

/-! ## Traces that are alike -/

/-- The same happens, apart from resolutions. -/
inductive Event.Alike (m : Leeway V) : Event σ V → Event σ V → Prop where
  | performed {r r' : Request σ V} {answer answer' : Answer σ V} (agrees : r.Agrees m r')
      (answers : answer.Alike m answer') : Alike m (.performed r answer) (.performed r' answer')
  | host {event : Event σ V} (isHost : event.IsHost) : Alike m event event

/-- Two traces are alike. -/
inductive TraceAlike (m : Leeway V) : List (Span σ V) → List (Span σ V) → Prop where
  | nil : TraceAlike m [] []
  | span {event event' : Event σ V} {before after before' after' : World σ V}
      {inner inner' rest rest' : List (Span σ V)} (events : event.Alike m event')
      (counts : event.Tells after ∧ event'.Tells after')
      (befores : before.Alike m before') (afters : after.Alike m after')
      (inside : TraceAlike m inner inner') (later : TraceAlike m rest rest') :
      TraceAlike m (⟨event, before, after, inner⟩ :: rest)
        (⟨event', before', after', inner'⟩ :: rest')
  /-- The same name is resolved in both. -/
  | resolved (i : Nat) (name : String) {found found' : Option Nat}
      {before after before' after' : World σ V} {inner inner' rest rest' : List (Span σ V)}
      (stands : Option.Rel m.Stands found found') (befores : before.Alike m before')
      (afters : after.Alike m after') (later : TraceAlike m rest rest') :
      TraceAlike m (⟨.resolved i name found, before, after, inner⟩ :: rest)
        (⟨.resolved i name found', before', after', inner'⟩ :: rest')
  /-- Only the first resolves, which is all that happens, and nothing is seen of it. -/
  | inserted (free : m.inserts = true) {r : Request σ V} {answer : Answer σ V}
      {before after : World σ V} {inner rest rest' : List (Span σ V)}
      (resolves : r.resolution? ≠ none) (unseen : before.Unseen m after)
      (only : ∀ span ∈ inner, span.event.IsResolution) (later : TraceAlike m rest rest') :
      TraceAlike m (⟨.performed r answer, before, after, inner⟩ :: rest) rest'
  /-- Only the second resolves. -/
  | deleted (free : m.inserts = true) {r : Request σ V} {answer : Answer σ V}
      {before after : World σ V} {inner rest rest' : List (Span σ V)}
      (resolves : r.resolution? ≠ none) (unseen : before.Unseen m after)
      (only : ∀ span ∈ inner, span.event.IsResolution) (later : TraceAlike m rest rest') :
      TraceAlike m rest (⟨.performed r answer, before, after, inner⟩ :: rest')

/-- What is told along a request that only resolves. -/
theorem Span.gather_of_resolves {β : Type} {tell : Span σ V → List β} {span : Span σ V}
    {r : Request σ V} {answer : Answer σ V} (performs : span.event = .performed r answer)
    (silent : tell span = []) (only : ∀ inside ∈ span.inner, inside.event.IsResolution) :
    span.gather tell = [] := by
  have inside : ∀ t : List (Span σ V), (∀ inside ∈ t, inside.event.IsResolution) →
      Membrane.gather tell t = [] := by
    intro t resolutions
    induction t with
    | nil => rfl
    | cons first rest ih =>
      have here := resolutions first List.mem_cons_self
      rw [Membrane.gather, ih fun span mem => resolutions span (List.mem_cons_of_mem _ mem)]
      obtain ⟨event, before, after, inner⟩ := first
      cases event with
      | resolved => rfl
      | performed | called | ran | replied | held => exact here.elim
  rw [gather_of_not_isResolution (by rw [performs]; exact id), silent, inside _ only]
  rfl

theorem Event.Alike.not_isResolution {m : Leeway V} {event event' : Event σ V}
    (events : event.Alike m event') : ¬ event.IsResolution ∧ ¬ event'.IsResolution := by
  cases events with
  | performed agrees answers => exact ⟨id, id⟩
  | host isHost => cases event <;> first | exact ⟨id, id⟩ | exact isHost.elim

theorem Answer.Alike.result? {m : Leeway V} {answer answer' : Answer σ V}
    (answers : answer.Alike m answer') : answer.result? = answer'.result? := by
  cases answers <;> rfl

theorem deed?_eq {m : Leeway V} {span span' : Span σ V} (events : span.event.Alike m span'.event) :
    span.deed? = span'.deed? := by
  obtain ⟨event, before, after, inner⟩ := span
  obtain ⟨event', before', after', inner'⟩ := span'
  cases events with
  | @performed r r' answer answer' agrees answers =>
    cases agrees with
    | access swaps operation => exact congrArg ([Deed.accessed operation ·]) answers.result?
    | plain isPlain => cases r <;> first | rfl | exact isPlain.elim
    | _ => rfl
  | host isHost => rfl

/-- What a request names is not lost to the liberty, and requests for resolutions name
nothing. -/
structure Request.Naming (m : Leeway V) (name? : Request σ V → Option Nat) : Prop where
  agrees : ∀ r r', r.Agrees m r' → (name? r).isSome = (name? r').isSome
  resolves : ∀ r, r.resolution? ≠ none → name? r = none

theorem naming_adapter (m : Leeway V) : Request.Naming m (σ := σ) Request.adapter? where
  agrees r r' agrees := by cases agrees <;> rfl
  resolves r resolves := by cases r <;> first | rfl | exact absurd rfl resolves

theorem naming_function (m : Leeway V) : Request.Naming m (σ := σ) Request.function? where
  agrees r r' agrees := by cases agrees <;> rfl
  resolves r resolves := by cases r <;> first | rfl | exact absurd rfl resolves

theorem Request.Naming.length_performed {m : Leeway V} {name? : Request σ V → Option Nat}
    (naming : Request.Naming m name?) {r r' : Request σ V} (agrees : r.Agrees m r')
    {answer answer' : Answer σ V} {before after before' after' : World σ V}
    {inner inner' : List (Span σ V)} :
    (Span.names name? ⟨.performed r answer, before, after, inner⟩).length =
      (Span.names name? ⟨.performed r' answer', before', after', inner'⟩).length := by
  rw [Span.names, Span.names, List.length_map, List.length_map, Option.length_toList,
    Option.length_toList, naming.agrees r r' agrees]

theorem Request.Naming.length {m : Leeway V} {name? : Request σ V → Option Nat}
    (naming : Request.Naming m name?) {span span' : Span σ V}
    (events : span.event.Alike m span'.event) :
    (span.names name?).length = (span'.names name?).length := by
  obtain ⟨event, before, after, inner⟩ := span
  obtain ⟨event', before', after', inner'⟩ := span'
  cases events with
  | performed agrees answers => exact naming.length_performed agrees
  | host isHost => cases event <;> first | rfl | exact isHost.elim

theorem Request.Naming.silent {m : Leeway V} {name? : Request σ V → Option Nat}
    (naming : Request.Naming m name?) {span : Span σ V} {r : Request σ V} {answer : Answer σ V}
    (performs : span.event = .performed r answer) (resolves : r.resolution? ≠ none) :
    span.names name? = [] := by
  rw [Span.names, performs]
  dsimp only
  rw [naming.resolves r resolves]
  rfl

namespace TraceAlike

variable {m : Leeway V} {t t' u u' : List (Span σ V)}

theorem append (first : TraceAlike m t t') (second : TraceAlike m u u') :
    TraceAlike m (t ++ u) (t' ++ u') := by
  induction first with
  | nil => exact second
  | span events counts befores afters inside later _ ih =>
    exact .span events counts befores afters inside ih
  | resolved i name stands befores afters later ih => exact .resolved i name stands befores afters ih
  | inserted free resolves unseen only later ih => exact .inserted free resolves unseen only ih
  | deleted free resolves unseen only later ih => exact .deleted free resolves unseen only ih

/-- The same happens at host objects. -/
theorem host {event : Event σ V} {before after before' after' : World σ V}
    (isHost : event.IsHost) (befores : before.Alike m before') (afters : after.Alike m after')
    (inside : TraceAlike m t t') :
    TraceAlike m [⟨event, before, after, t⟩] [⟨event, before', after', t'⟩] := by
  refine .span (.host isHost) ?_ befores afters inside .nil
  cases event <;> first | exact ⟨trivial, trivial⟩ | exact isHost.elim

/-- What is told of things that are alike is related along traces that are alike. -/
theorem gather {β : Type} {R : β → β → Prop} {tell : Span σ V → List β}
    (alike : TraceAlike m t t')
    (each : ∀ span span' : Span σ V, span.event.Alike m span'.event →
      List.Forall₂ R (tell span) (tell span'))
    (silent : ∀ (span : Span σ V) (r : Request σ V) (answer : Answer σ V),
      span.event = .performed r answer → r.resolution? ≠ none → tell span = []) :
    List.Forall₂ R (Membrane.gather tell t) (Membrane.gather tell t') := by
  induction alike with
  | nil => exact .nil
  | span events counts befores afters inside later ih₁ ih₂ =>
    rw [Membrane.gather, Membrane.gather,
      Span.gather_of_not_isResolution events.not_isResolution.1,
      Span.gather_of_not_isResolution events.not_isResolution.2]
    exact List.rel_append (List.rel_append (each ⟨_, _, _, _⟩ ⟨_, _, _, _⟩ events) ih₁) ih₂
  | resolved i name stands befores afters later ih => exact ih
  | inserted free resolves unseen only later ih =>
    rw [Membrane.gather, Span.gather_of_resolves rfl (silent _ _ _ rfl resolves) only]
    exact ih
  | deleted free resolves unseen only later ih =>
    rw [Membrane.gather, Span.gather_of_resolves rfl (silent _ _ _ rfl resolves) only]
    exact ih

/-- The same deeds are done, with the same results. -/
theorem deedsOf (alike : TraceAlike m t t') : deedsOf t = deedsOf t' := by
  have related : List.Forall₂ (· = ·) (Membrane.deedsOf t) (Membrane.deedsOf t') := by
    apply alike.gather
    · intro span span' events
      rw [List.forall₂_eq_eq_eq]
      exact deed?_eq events
    · intro span r answer performs resolves
      rw [Span.deed?, performs]
      cases r <;> first | rfl | exact absurd rfl resolves
  rwa [List.forall₂_eq_eq_eq] at related

/-- As many names are named. -/
theorem length_names (alike : TraceAlike m t t') {name? : Request σ V → Option Nat}
    (naming : Request.Naming m name?) :
    (Membrane.gather (Span.names name?) t).length =
      (Membrane.gather (Span.names name?) t').length := by
  have related : List.Forall₂ (fun _ _ => True) (Membrane.gather (Span.names name?) t)
      (Membrane.gather (Span.names name?) t') := by
    apply alike.gather
    · intro span span' events
      exact List.forall₂_iff_zip.mpr ⟨naming.length events, fun _ => trivial⟩
    · intro span r answer performs resolves
      exact naming.silent performs resolves
  exact related.length_eq

end TraceAlike

/-! ## What is known of the two runs -/

/-- What is told along one trace is related to what is told in its place along
another. -/
def Paired {β : Type} (R : β → β → Prop) (tell : Span σ V → List β) (t t' : List (Span σ V)) :
    Prop :=
  ∀ pair ∈ (gather tell t).zip (gather tell t'), R pair.1 pair.2

/-- What stands beside each other in lists does so in longer ones. -/
theorem mem_zip_append {α β : Type} {xs us : List α} {ys vs : List β} {entry : α × β}
    (mem : entry ∈ xs.zip ys) : entry ∈ (xs ++ us).zip (ys ++ vs) := by
  induction xs generalizing ys with
  | nil => cases mem
  | cons x xs ih =>
    cases ys with
    | nil => cases mem
    | cons y ys =>
      rw [List.cons_append, List.cons_append, List.zip_cons_cons]
      rcases List.mem_cons.mp mem with rfl | later
      · exact List.mem_cons_self
      · exact List.mem_cons_of_mem _ (ih later)

/-- What is told along a span, which may tell something itself. -/
theorem gather_singleton {β : Type} {tell : Span σ V → List β} {span : Span σ V}
    (other : ¬ span.event.IsResolution) :
    gather tell [span] = tell span ++ gather tell span.inner := by
  rw [gather, Span.gather_of_not_isResolution other, gather, List.append_nil]

namespace Paired

variable {β : Type} {R : β → β → Prop} {tell : Span σ V → List β} {t t' u u' : List (Span σ V)}
  {span span' : Span σ V}

theorem first (paired : Paired R tell (t ++ u) (t' ++ u')) : Paired R tell t t' := by
  intro pair mem
  apply paired pair
  rw [gather_append, gather_append]
  exact mem_zip_append mem

theorem later (paired : Paired R tell (t ++ u) (t' ++ u'))
    (count : (gather tell t).length = (gather tell t').length) : Paired R tell u u' := by
  intro pair mem
  apply paired pair
  rw [gather_append, gather_append, List.zip_append count]
  exact List.mem_append_right _ mem

theorem inside (paired : Paired R tell [span] [span']) (other : ¬ span.event.IsResolution)
    (other' : ¬ span'.event.IsResolution) (count : (tell span).length = (tell span').length) :
    Paired R tell span.inner span'.inner := by
  intro pair mem
  apply paired pair
  rw [gather_singleton other, gather_singleton other', List.zip_append count]
  exact List.mem_append_right _ mem

theorem skip (paired : Paired R tell (span :: t) t') (silent : span.gather tell = []) :
    Paired R tell t t' := by
  rwa [Paired, gather, silent, List.nil_append] at paired

theorem skip' (paired : Paired R tell t (span :: t')) (silent : span.gather tell = []) :
    Paired R tell t t' := by
  rwa [Paired, gather, silent, List.nil_append] at paired

end Paired

/-- What an access takes from an adapter. -/
def World.face? (w : World σ V) (i : Nat) : Option (ObjectRef × Codec V × Options) :=
  (w.adapter? i).map fun a => (a.object, a.codec, a.options)

/-- Each access of the one run and the access of the other that is made in its place
go through adapters over the same object, with the same codec and the same options at
that moment. -/
def Meet (t t' : List (Span σ V)) : Prop :=
  Paired (fun access access' => access.1.face? access.2 = access.1.face? access'.2)
    (Span.names Request.adapter?) t t'

/-- A function object that is used is one that the engine keeps in both runs, or in
neither. So nothing is used that only one of the runs resolved. -/
def UseSame (t t' : List (Span σ V)) : Prop :=
  Paired (fun used used' => used.2 ∈ used.1.retained ↔ used'.2 ∈ used'.1.retained)
    (Span.names Request.function?) t t'

/-- The callables of a world are those of a table. -/
def World.KeepsTo (callable : Nat → Option (FunctionObject V)) (w : World σ V) : Prop :=
  ∀ n f, w.callable? n = some f → callable n = some f

/-- A span keeps to a table of callables: there are no others at its ends, and those that
are cached or that the engine keeps are in order. -/
structure Span.KeepsTo (callable : Nat → Option (FunctionObject V)) (span : Span σ V) :
    Prop where
  before : span.before.KeepsTo callable
  after : span.after.KeepsTo callable
  bound : span.before.CachesBound
  methods : span.before.CachesMethods
  retained : ∀ n ∈ span.before.retained, span.before.callable? n ≠ none

/-- What has to be known of the traces of two runs. -/
def Leeway.Admits (m : Leeway V) (t t' : List (Span σ V)) : Prop :=
  match m with
  | adapters => Meet t t'
  | resolutions callable callable' =>
    Throughout (Span.KeepsTo callable) t ∧ Throughout (Span.KeepsTo callable') t' ∧ UseSame t t'

namespace Leeway.Admits

variable {m : Leeway V} {t t' u u' : List (Span σ V)} {span span' : Span σ V}

/-- What is known of two runs is known of how they begin. -/
theorem first (admits : m.Admits (t ++ u) (t' ++ u')) : m.Admits t t' := by
  cases m with
  | adapters =>
    have meet : Meet (t ++ u) (t' ++ u') := admits
    exact meet.first
  | resolutions =>
    obtain ⟨keeps, keeps', uses⟩ := admits
    exact ⟨(throughout_append.mp keeps).1, (throughout_append.mp keeps').1, uses.first⟩

theorem head (admits : m.Admits (span :: t) (span' :: t')) : m.Admits [span] [span'] :=
  admits.first

/-- What is known of two runs is known of how they go on after what is alike. -/
theorem later (admits : m.Admits (t ++ u) (t' ++ u')) (alike : TraceAlike m t t') :
    m.Admits u u' := by
  cases m with
  | adapters =>
    have meet : Meet (t ++ u) (t' ++ u') := admits
    exact meet.later (alike.length_names (naming_adapter _))
  | resolutions =>
    obtain ⟨keeps, keeps', uses⟩ := admits
    exact ⟨(throughout_append.mp keeps).2, (throughout_append.mp keeps').2,
      uses.later (alike.length_names (naming_function _))⟩

theorem inside (admits : m.Admits [span] [span']) (other : ¬ span.event.IsResolution)
    (other' : ¬ span'.event.IsResolution)
    (count : ∀ name? : Request σ V → Option Nat, Request.Naming m name? →
      (span.names name?).length = (span'.names name?).length) :
    m.Admits span.inner span'.inner := by
  cases m with
  | adapters =>
    have meet : Meet [span] [span'] := admits
    exact meet.inside other other' (count _ (naming_adapter _))
  | resolutions =>
    obtain ⟨keeps, keeps', uses⟩ := admits
    exact ⟨(throughout_cons.mp keeps).2.1, (throughout_cons.mp keeps').2.1,
      uses.inside other other' (count _ (naming_function _))⟩

/-- What is known of two runs is known without a request that only resolves. -/
theorem skip (free : m.inserts = true) (admits : m.Admits (span :: t) t')
    (silent : span.gather (Span.names Request.function?) = []) : m.Admits t t' := by
  cases m with
  | adapters => cases free
  | resolutions =>
    obtain ⟨keeps, keeps', uses⟩ := admits
    exact ⟨(throughout_cons.mp keeps).2.2, keeps', uses.skip silent⟩

theorem skip' (free : m.inserts = true) (admits : m.Admits t (span :: t'))
    (silent : span.gather (Span.names Request.function?) = []) : m.Admits t t' := by
  cases m with
  | adapters => cases free
  | resolutions =>
    obtain ⟨keeps, keeps', uses⟩ := admits
    exact ⟨keeps, (throughout_cons.mp keeps').2.2, uses.skip' silent⟩

end Leeway.Admits

/-! ## Twins -/

variable {α β : Type}

/-- Two outcomes are alike. -/
structure Outcome.Alike (m : Leeway V) (R : α → α → Prop) (outcome outcome' : Outcome σ V α) :
    Prop where
  value : R outcome.value outcome'.value
  trace : TraceAlike m outcome.trace outcome'.trace
  world : outcome.world.Alike m outcome'.world

/-- Two acts give outcomes that are alike from two worlds, if the worlds are alike. -/
def Act.TwinAt (m : Leeway V) (R : α → α → Prop) (act act' : Act σ V α) (w w' : World σ V) :
    Prop :=
  w.Alike m w' → m.Admits (act w).trace (act' w').trace → (act w).Alike m R (act' w')

/-- Two acts give outcomes that are alike from all worlds that are. -/
def Act.Twin (m : Leeway V) (R : α → α → Prop) (act act' : Act σ V α) : Prop :=
  ∀ w w', act.TwinAt m R act' w w'

namespace Act

variable {m : Leeway V} {R : α → α → Prop} {S : β → β → Prop} {act act' : Act σ V α}
  {next next' : α → Act σ V β} {w w' : World σ V}

theorem TwinAt.bind (twin : act.TwinAt m R act' w w')
    (each : R (act w).value (act' w').value →
      (next (act w).value).TwinAt m S (next' (act' w').value) (act w).world (act' w').world) :
    (act >>= next).TwinAt m S (act' >>= next') w w' := by
  intro alike admits
  have first := twin alike admits.first
  have second := each first.value first.world (admits.later first.trace)
  exact ⟨second.value, first.trace.append second.trace, second.world⟩

/-- What both acts look at first may differ. -/
theorem TwinAt.look_bind {f f' : World σ V → α}
    (each : (next (f w)).TwinAt m S (next' (f' w')) w w') :
    (Act.look f >>= next).TwinAt m S (Act.look f' >>= next') w w' :=
  each

theorem Twin.bind (twin : act.Twin m R act')
    (each : ∀ a a', R a a' → (next a).Twin m S (next' a')) :
    (act >>= next).Twin m S (act' >>= next') :=
  fun w w' => (twin w w').bind fun related => each _ _ related _ _

/-- Acts that give the same may be followed by what is alike for each thing given. -/
theorem Twin.bind_eq (twin : act.Twin m Eq act') (each : ∀ a, (next a).Twin m S (next' a)) :
    (act >>= next).Twin m S (act' >>= next') := by
  apply twin.bind
  rintro a _ rfl
  exact each a

theorem Twin.pure {a a' : α} (related : R a a') : (Act.pure a : Act σ V α).Twin m R (Act.pure a') :=
  fun _ _ alike _ => ⟨related, .nil, alike⟩

theorem Twin.look {f f' : World σ V → α} (related : ∀ w w', w.Alike m w' → R (f w) (f' w')) :
    (Act.look f).Twin m R (Act.look f') :=
  fun w w' alike _ => ⟨related w w' alike, .nil, alike⟩

/-- What is looked at does not matter if both acts go on alike after it. -/
theorem Twin.look_bind {f f' : World σ V → α}
    (each : ∀ a a', (next a).Twin m S (next' a')) :
    (Act.look f >>= next).Twin m S (Act.look f' >>= next') :=
  fun w w' => TwinAt.look_bind (each _ _ w w')

/-- Both acts change their worlds, and go on alike. -/
theorem Twin.update_bind {f f' : World σ V → World σ V} {rest rest' : Act σ V β}
    (related : ∀ w w', w.Alike m w' → (f w).Alike m (f' w')) (later : rest.Twin m S rest') :
    (Act.update f >>= fun _ => rest).Twin m S (Act.update f' >>= fun _ => rest') :=
  fun w w' alike => later (f w) (f' w') (related w w' alike)

theorem Twin.change {f f' : World σ V → α × World σ V}
    (related : ∀ w w', w.Alike m w' → R (f w).1 (f' w').1 ∧ (f w).2.Alike m (f' w').2) :
    (Act.change f).Twin m R (Act.change f') :=
  fun w w' alike _ => ⟨(related w w' alike).1, .nil, (related w w' alike).2⟩

/-- Numbers of callables alive that an act answers are those of the world after it. -/
def Tells (act : Act σ V (Answer σ V)) : Prop :=
  ∀ w count, (act w).value.live? = some count → count = (act w).world.liveFunctions

/-- A request is performed in both runs, in its place. -/
theorem TwinAt.performed {act act' : Act σ V (Answer σ V)} {r r' : Request σ V}
    (agrees : r.Agrees m r') (tells : act.Tells) (tells' : act'.Tells)
    (twin : m.Admits ((act.within (.performed r)) w).trace ((act'.within (.performed r')) w').trace →
      act.TwinAt m (Answer.Alike m) act' w w') :
    (act.within (.performed r)).TwinAt m (Answer.Alike m) (act'.within (.performed r')) w w' := by
  intro alike admits
  have inside := twin admits alike
    (admits.inside id id fun _ naming => naming.length_performed agrees)
  exact ⟨inside.value, .span (.performed agrees inside.value) ⟨tells w, tells' w'⟩ alike
    inside.world inside.trace .nil, inside.world⟩

end Act

end Membrane
