import Membrane.Proofs.AtRest
import Membrane.Proofs.Custody
import Membrane.Proofs.RunsAlike

/-!
# Accesses through other adapters

Where accesses go through other adapters of the same face, both runs have the same
caches, callables and counts at every moment at which no adapter that was dropped is
still in use, and with them tell the same counts. A dropped adapter on which an access
runs keeps its callables until the access ends, and so the counts may differ for that
long; where a run ends, nothing is in use.
-/

namespace Membrane

variable {σ V : Type}

/-- A function object is what it is for good and the number of its references. -/
theorem FunctionObject.eq_of_lasting {f f' : FunctionObject V} (lasting : f.lasting = f'.lasting)
    (references : f.references = f'.references) : f = f' := by
  obtain ⟨binding, trampoline, codec, count⟩ := f
  obtain ⟨binding', trampoline', codec', count'⟩ := f'
  cases lasting
  cases references
  rfl

namespace World

/-- No adapter that was dropped is still in use. -/
def NoneLingers (w : World σ V) : Prop :=
  ∀ i a, w.livingAdapter? i = some a → a.named = true

/-- Nothing is different in two worlds but the programs that objects run, and the
operations that run on adapters. -/
structure SameState (w w' : World σ V) : Prop where
  alike : w.Alike .adapters w'
  functions : w.functions = w'.functions
  adapters : w.adapters.map (Option.map (Adapter.shown .adapters)) =
    w'.adapters.map (Option.map (Adapter.shown .adapters))
  owners : ∀ o, w.handleCount o = w'.handleCount o

theorem SameState.liveFunctions {w w' : World σ V} (same : w.SameState w') :
    w.liveFunctions = w'.liveFunctions := by
  rw [World.liveFunctions, World.liveFunctions, same.functions]

theorem NoneLingers.adapter?_eq {w : World σ V} (none : w.NoneLingers) (i : Nat) :
    w.adapter? i = w.livingAdapter? i := by
  rw [adapter?]
  cases living : w.livingAdapter? i with
  | none => rfl
  | some a => rw [Option.filter_some, if_pos (none i a living)]

/-- In a world at rest nothing lingers. -/
theorem AtRest.noneLingers {w : World σ V} (rest : w.AtRest) : w.NoneLingers :=
  fun _ _ living => rest.named living

section SameState

variable {w w' : World σ V} {hand : Hand}

/-- Where nothing lingers, both worlds have the same adapters, torn down or not. -/
theorem Alike.adapters_eq (alike : w.Alike .adapters w') (none : w.NoneLingers)
    (none' : w'.NoneLingers) : w.adapters.map (Option.map (Adapter.shown .adapters)) =
      w'.adapters.map (Option.map (Adapter.shown .adapters)) := by
  apply List.ext_getElem
  · rw [List.length_map, List.length_map, alike.numbered]
  · intro i inside inside'
    rw [List.getElem_map, List.getElem_map]
    rw [List.length_map] at inside inside'
    have places := alike.adapters i
    rw [none.adapter?_eq, none'.adapter?_eq, livingAdapter?, livingAdapter?,
      List.getElem?_eq_getElem inside, List.getElem?_eq_getElem inside'] at places
    exact places

/-- What is read off the adapters that are not torn down, apart from the operations
that run on them. -/
theorem flatMap_adapters {β : Type} (f : Adapter V → List β)
    (shown : ∀ a : Adapter V, f (a.shown .adapters) = f a) (w : World σ V) :
    w.adapters.flatMap (·.elim [] f) =
      (w.adapters.map (Option.map (Adapter.shown .adapters))).flatMap (·.elim [] f) := by
  rw [List.flatMap_map]
  congr 1
  funext place
  cases place with
  | none => rfl
  | some a => exact (shown a).symm

theorem cached_eq (adapters : w.adapters.map (Option.map (Adapter.shown .adapters)) =
    w'.adapters.map (Option.map (Adapter.shown .adapters))) : w.cached = w'.cached := by
  rw [cached, cached, flatMap_adapters _ (fun _ => rfl) w, flatMap_adapters _ (fun _ => rfl) w',
    adapters]

theorem wrappings_eq (adapters : w.adapters.map (Option.map (Adapter.shown .adapters)) =
    w'.adapters.map (Option.map (Adapter.shown .adapters))) (o : Nat) :
    w.wrappings o = w'.wrappings o := by
  have counted (u : World σ V) : u.wrappings o =
      (u.adapters.map (Option.map (Adapter.shown .adapters))).countP
        fun place => place.any fun a => a.object.id == o := by
    rw [wrappings, List.countP_map]
    congr 1
    funext place
    cases place <;> rfl
  rw [counted w, counted w', adapters]

/-- Callables that are the same, with the same number of references each, are the same
function objects. -/
theorem SameCallables.functions_eq (same : w.SameCallables w')
    (references : ∀ n, w.references n = w'.references n) : w.functions = w'.functions := by
  apply List.ext_getElem same.minted
  intro i inside inside'
  have callables := same.callables (i + 1)
  have counts := references (i + 1)
  have found (u : World σ V) (inside : i < u.functions.length) :
      u.function? (i + 1) = some u.functions[i] := by
    rw [function?, if_neg (Nat.succ_ne_zero i), Nat.add_sub_cancel, List.getElem?_eq_getElem inside]
  rw [callable?, callable?, found w inside, found w' inside'] at callables
  rw [World.references, World.references, found w inside, found w' inside'] at counts
  exact FunctionObject.eq_of_lasting (Option.some.inj callables) counts

/-- Where accounts are in order, with the same in hand, and nothing lingers, worlds
that are alike are the same. -/
theorem Alike.sameState (alike : w.Alike .adapters w') (accounts : w.Accounts hand)
    (accounts' : w'.Accounts hand) (none : w.NoneLingers) (none' : w'.NoneLingers) :
    w.SameState w' := by
  have callables := alike.callables rfl
  have adapters := alike.adapters_eq none none'
  have functions := callables.functions_eq fun n => by
    rw [accounts.references, accounts'.references, cached_eq adapters, callables.retained]
  have owners (o : Nat) : w.handleCount o = w'.handleCount o := by
    rw [accounts.handles, accounts'.handles, wrappings_eq adapters,
      numberings_congr alike.handles.symm, bindings, bindings, functions]
  exact ⟨alike, functions, adapters, owners⟩

/-- In worlds at rest the adapters are the same in all that they are. -/
theorem SameState.adapters_eq (same : w.SameState w') (rest : w.AtRest) (rest' : w'.AtRest) :
    w.adapters = w'.adapters := by
  have still (u : World σ V) (rest : u.AtRest) :
      u.adapters.map (Option.map (Adapter.shown .adapters)) = u.adapters := by
    apply List.ext_getElem?
    intro i
    rw [List.getElem?_map]
    cases here : u.adapters[i]? with
    | none => rfl
    | some place =>
      cases place with
      | none => rfl
      | some a =>
        have idle : a.running = 0 := rest.running (by rw [livingAdapter?, here]; rfl)
        have shown : a.shown .adapters = a := by
          obtain ⟨object, codec, options, trampoline, methods, running, named⟩ := a
          cases idle
          rfl
        rw [Option.map_some, Option.map_some, shown]
  rw [← still w rest, ← still w' rest', same.adapters]

end SameState

end World

/-! ## Spans beside each other -/

/-- A span of one trace and the span of another at the same place, in it or inside
spans that stand beside each other. What the engine does while it makes a callable is
passed over. -/
inductive Beside : List (Span σ V) → List (Span σ V) → Span σ V → Span σ V → Prop where
  | here {span span' : Span σ V} {t t' : List (Span σ V)} :
    Beside (span :: t) (span' :: t') span span'
  | inside {span span' inner inner' : Span σ V} {t t' : List (Span σ V)}
      (other : ¬ span.event.IsResolution) (deeper : Beside span.inner span'.inner inner inner') :
      Beside (span :: t) (span' :: t') inner inner'
  | later {span span' first first' : Span σ V} {t t' : List (Span σ V)}
      (further : Beside t t' span span') : Beside (first :: t) (first' :: t') span span'

/-- Spans at which everything is the same, apart from programs and from which adapter
an access goes through, as far as nothing lingers. -/
structure Span.Same (span span' : Span σ V) : Prop where
  before : span.before.NoneLingers → span'.before.NoneLingers →
    span.before.SameState span'.before
  after : span.after.NoneLingers → span'.after.NoneLingers → span.after.SameState span'.after
  answers : span.after.NoneLingers → span'.after.NoneLingers →
    ∀ r r' answer answer', span.event = .performed r answer → span'.event = .performed r' answer' →
      answer = answer'

/-- Answers that are alike and tell the same count are the same, where both runs have
the same callables. -/
theorem Answer.Alike.eq_of_live? {answer answer' : Answer σ V}
    (alike : answer.Alike .adapters answer') {live : Nat}
    (told : ∀ count, answer.live? = some count → count = live)
    (told' : ∀ count, answer'.live? = some count → count = live) : answer = answer' := by
  cases alike with
  | plain isPlain => rfl
  | live count count' => rw [told count rfl, told' count' rfl]
  | @adapter info info' object options caches =>
    obtain ⟨object, cached, options, minted, live⟩ := info
    obtain ⟨object', cached', options', minted', live'⟩ := info'
    obtain ⟨rfl, rfl⟩ := caches rfl
    cases object
    cases options
    rw [told live rfl, told' live' rfl]
  | @resolved n n' stands result =>
    cases stands
    rfl
  | released wasRetained live live' => rw [told live rfl, told' live' rfl]

/-- The same is in hand inside and after spans that are alike. -/
theorem hand_congr {span span' : Span σ V} (events : span.event.Alike .adapters span'.event)
    (hand : Hand) : span.handInside hand = span'.handInside hand ∧
      span.handAfter hand = span'.handAfter hand := by
  obtain ⟨event, before, after, inner⟩ := span
  obtain ⟨event', before', after', inner'⟩ := span'
  cases events with
  | host isHost => cases event <;> first | exact ⟨rfl, rfl⟩ | exact isHost.elim
  | performed agrees answers =>
    cases agrees with
    | plain isPlain => cases ‹Request σ V› <;> exact ⟨rfl, rfl⟩
    | callFunction stands args =>
      cases stands
      exact ⟨rfl, rfl⟩
    | _ => exact ⟨rfl, rfl⟩

/-- Spans of worlds that are alike are the same where accounts are in order. -/
theorem Span.same_of_booked {span span' : Span σ V} {hand : Hand}
    (befores : span.before.Alike .adapters span'.before)
    (afters : span.after.Alike .adapters span'.after) (booked : span.Booked hand)
    (booked' : span'.Booked hand) (hands : span.handAfter hand = span'.handAfter hand)
    (answers : span.after.SameState span'.after → ∀ r r' answer answer',
      span.event = .performed r answer → span'.event = .performed r' answer' → answer = answer') :
    span.Same span' := by
  have after : span.after.NoneLingers → span'.after.NoneLingers →
      span.after.SameState span'.after := by
    apply afters.sameState booked.2
    rw [hands]
    exact booked'.2
  exact ⟨befores.sameState booked.1 booked'.1, after, fun none none' => answers (after none none')⟩

/-- Along traces that are alike, in which accounts are in order, spans beside each
other are the same. -/
theorem TraceAlike.same {t t' : List (Span σ V)} (alike : TraceAlike .adapters t t') {hand : Hand}
    (booked : Along Span.Booked hand t) (booked' : Along Span.Booked hand t')
    {span span' : Span σ V} (beside : Beside t t' span span') : span.Same span' := by
  induction alike generalizing hand with
  | nil => cases beside
  | inserted free => cases free
  | deleted free => cases free
  | @resolved i name found found' _ _ _ _ _ _ _ _ stands befores afters later ih =>
    obtain rfl : found = found' := by
      cases stands with
      | none => rfl
      | some same => exact congrArg some same
    obtain ⟨here, _, rest⟩ := along_cons.mp booked
    obtain ⟨here', _, rest'⟩ := along_cons.mp booked'
    cases beside with
    | here =>
      refine Span.same_of_booked befores afters here here' ?_ ?_
      · cases found <;> rfl
      · intro _ r r' answer answer' performs
        cases performs
    | inside other deeper => exact absurd trivial other
    | later further =>
      refine ih rest ?_ further
      cases found <;> exact rest'
  | @span event event' before after before' after' inner inner' _ _ events counts befores afters
      inside later ih₁ ih₂ =>
    obtain ⟨here, deep, rest⟩ := along_cons.mp booked
    obtain ⟨here', deep', rest'⟩ := along_cons.mp booked'
    have hands : Span.handInside ⟨event, before, after, inner⟩ hand =
        Span.handInside ⟨event', before', after', inner'⟩ hand ∧
      Span.handAfter ⟨event, before, after, inner⟩ hand =
        Span.handAfter ⟨event', before', after', inner'⟩ hand := hand_congr events hand
    cases beside with
    | here =>
      refine Span.same_of_booked befores afters here here' hands.2 ?_
      rintro same r r' answer answer' rfl rfl
      cases events with
      | performed agrees answers =>
        apply answers.eq_of_live? counts.1
        rw [same.liveFunctions]
        exact counts.2
      | host isHost => exact isHost.elim
    | inside other deeper =>
      rw [← hands.1] at deep'
      exact ih₁ deep deep' deeper
    | later further =>
      rw [← hands.2] at rest'
      exact ih₂ rest rest' further

end Membrane
