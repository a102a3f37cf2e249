import Membrane.Proofs.Changes
import Membrane.Proofs.Custody

/-!
# How long callables live

A function object is alive exactly while an adapter has it cached, the engine
keeps it, or it is in hand. A callable that loses to a resolution of the same name
is gone when its own resolution returns; dropping an adapter lets go of what it
alone has; and what was once cached stays bound to the object and the name for
which it was made, for as long as anything refers to it.
-/

namespace Membrane

variable {σ V : Type}

namespace World

/-- Alive are exactly the function objects that an adapter has cached, that the
engine keeps, and that are in hand. -/
def InCustody (w : World σ V) (hand : Hand) : Prop :=
  ∀ function, w.IsLive function ↔
    (∃ i a, w.livingAdapter? i = some a ∧ function ∈ a.functions) ∨
      function ∈ w.retained ∨ function ∈ hand.functions

/-- Dropping an adapter on which no operation runs lets go of the callables that
nobody else has: no other adapter, not the engine, and that are not in hand. -/
def DropsItsOwn (w : World σ V) (hand : Hand) : Prop :=
  ∀ i a entry, w.adapter? i = some a → ∀ function,
    (perform entry (.dropAdapter i) w).world.IsLive function ↔
      w.IsLive function ∧
        ¬ (a.running = 0 ∧ function ∈ a.functions ∧ function ∉ w.retained ∧
          function ∉ hand.functions ∧
          ∀ j b, j ≠ i → w.livingAdapter? j = some b → function ∉ b.functions)

/-- What an adapter has cached for a name is bound to the adapter's object and to
the name, in a later world too, whether or not the adapter is still there; and
where the engine keeps it, a call goes through the adapter's trampoline. -/
def StaysBound (w w' : World σ V) : Prop :=
  ∀ i a name function, w.livingAdapter? i = some a → (name, function) ∈ a.methods →
    ∃ f, w'.function? function = some f ∧ f.binding = ⟨a.object, name⟩ ∧
      f.trampoline = a.trampoline ∧ f.codec = a.codec ∧
      ∀ entry args, function ∈ w'.retained →
        let dispatched := f.call entry args (w'.acquireFunction function)
        perform entry (.callFunction function args) w' =
          ⟨.accessed dispatched.value, dispatched.trace, dispatched.world.releaseFunction function⟩

end World

/-- A callable that was made by a resolution and is not what the resolution gives
is gone when it returns; of all others that were made meanwhile, those live on
that an adapter has cached or the engine keeps. -/
def Span.LetsLosersGo (span : Span σ V) : Prop :=
  ∀ i name function, span.event = .resolved i name (some function) →
    ∀ made, span.before.functions.length < made → made ≠ function →
      (span.after.IsLive made ↔
        (∃ j b, span.after.livingAdapter? j = some b ∧ made ∈ b.functions) ∨
          made ∈ span.after.retained) ∧
      (made = span.after.functions.length → ¬ span.after.IsLive made)

/-- An adapter without a number is kept by the operations that run on it. -/
theorem Adapter.isUsed_unnamed (a : Adapter V) :
    { a with named := false }.isUsed = true ↔ a.running ≠ 0 := by
  simp [Adapter.isUsed, Nat.pos_iff_ne_zero]

namespace World

variable {w w' : World σ V} {hand : Hand}

theorem Accounts.inCustody (accounts : w.Accounts hand) : w.InCustody hand := by
  intro function
  rw [IsLive, accounts.references, ← mem_cached_iff]
  simp only [← List.count_pos_iff]
  omega

/-! ## Dropping an adapter -/

@[simp] theorem retained_releaseFunction (w : World σ V) (function : Nat) :
    (w.releaseFunction function).retained = w.retained := by
  simp only [releaseFunction]
  cases w.function? function with
  | none => rfl
  | some f => by_cases last : f.references = 1 <;> simp [last, releaseHandle]

@[simp] theorem retained_settleAdapter (w : World σ V) (i : Nat) :
    (w.settleAdapter i).retained = w.retained :=
  settleAdapter_induction (R := fun w w' => w'.retained = w.retained) (fun _ => rfl)
    (fun first second => second.trans first) (fun _ _ => rfl) retained_releaseFunction
    (fun _ _ => rfl) w i

theorem retained_dropAdapter (w : World σ V) (i : Nat) :
    (w.dropAdapter i).retained = w.retained :=
  retained_settleAdapter (w.modifyAdapter i _) i

theorem world_perform_dropAdapter {i : Nat} {a : Adapter V} (found : w.adapter? i = some a)
    (entry : Entry σ V) : (perform entry (.dropAdapter i) w).world = w.dropAdapter i := by
  simp only [perform, withAdapter, bind, Act.bind, Act.look, Act.update, pure, Act.pure, found]

/-- A dropped adapter is left only while an operation runs on it; the others are
left as they were. -/
theorem livingAdapter?_dropAdapter_eq_some_iff {i : Nat} {a : Adapter V}
    (living : w.livingAdapter? i = some a) (j : Nat) (b : Adapter V) :
    (w.dropAdapter i).livingAdapter? j = some b ↔
      j ≠ i ∧ w.livingAdapter? j = some b ∨
        j = i ∧ a.running ≠ 0 ∧ b = { a with named := false } := by
  rw [livingAdapter?_dropAdapter]
  by_cases same : j = i
  · subst same
    rw [if_pos rfl, living, Option.map_some, Option.filter_eq_some_iff, Option.some.injEq]
    simp only [ne_eq, not_true, false_and, false_or, true_and]
    constructor
    · rintro ⟨rfl, used⟩
      exact ⟨a.isUsed_unnamed.mp used, rfl⟩
    · rintro ⟨running, rfl⟩
      exact ⟨rfl, a.isUsed_unnamed.mpr running⟩
  · simp [same]

theorem Accounts.dropsItsOwn (accounts : w.Accounts hand) : w.DropsItsOwn hand := by
  intro i a entry found function
  obtain ⟨living, _⟩ := livingAdapter?_of_adapter? found
  have left := livingAdapter?_dropAdapter_eq_some_iff living
  rw [world_perform_dropAdapter found, (accounts.dropAdapter i).inCustody function,
    accounts.inCustody function, retained_dropAdapter]
  constructor
  · rintro (⟨j, b, after, cached⟩ | kept | used)
    · rcases (left j b).mp after with ⟨other, before⟩ | ⟨rfl, running, rfl⟩
      · exact ⟨Or.inl ⟨j, b, before, cached⟩, fun gone => gone.2.2.2.2 j b other before cached⟩
      · exact ⟨Or.inl ⟨j, a, living, cached⟩, fun gone => running gone.1⟩
    · exact ⟨Or.inr (Or.inl kept), fun gone => gone.2.2.1 kept⟩
    · exact ⟨Or.inr (Or.inr used), fun gone => gone.2.2.2.1 used⟩
  · rintro ⟨⟨j, b, before, cached⟩ | kept | used, remains⟩
    · by_cases same : j = i
      · subst same
        cases living.symm.trans before
        by_contra nothing
        simp only [not_or, not_exists, not_and] at nothing
        obtain ⟨uncached, unkept, unused⟩ := nothing
        have idle : a.running = 0 := by
          by_contra running
          exact uncached j _ ((left j _).mpr (Or.inr ⟨rfl, running, rfl⟩)) cached
        exact remains ⟨idle, cached, unkept, unused, fun i b other before =>
          uncached i b ((left i b).mpr (Or.inl ⟨other, before⟩))⟩
      · exact Or.inl ⟨j, b, (left j b).mpr (Or.inl ⟨same, before⟩), cached⟩
    · exact Or.inr (Or.inl kept)
    · exact Or.inr (Or.inr used)

end World

/-! ## Losing to another resolution -/

namespace World

variable {w : World σ V}

@[simp] theorem length_functions_modifyFunction (w : World σ V) (function : Nat)
    (g : FunctionObject V → FunctionObject V) :
    (w.modifyFunction function g).functions.length = w.functions.length := by
  by_cases zero : function = 0 <;> simp [modifyFunction, zero]

@[simp] theorem length_functions_acquireFunction (w : World σ V) (function : Nat) :
    (w.acquireFunction function).functions.length = w.functions.length :=
  length_functions_modifyFunction w function _

@[simp] theorem length_functions_releaseFunction (w : World σ V) (function : Nat) :
    (w.releaseFunction function).functions.length = w.functions.length := by
  simp only [releaseFunction]
  cases w.function? function with
  | none => rfl
  | some f => by_cases last : f.references = 1 <;> simp [last, releaseHandle]

@[simp] theorem length_functions_publish (w : World σ V) (i : Nat) (name : String)
    (function : Nat) : (w.publish i name function).2.functions.length = w.functions.length := by
  rw [publish]
  cases w.livingAdapter? i with
  | none => rfl
  | some a => cases cached : a.cached? name <;> simp [cached, modifyAdapter]

theorem function?_acquireFunction_ne (w : World σ V) {function i : Nat} (other : i ≠ function) :
    (w.acquireFunction function).function? i = w.function? i := by
  rw [acquireFunction, function?_modifyFunction, if_neg other]

/-- The last reference that is let go leaves a function object without any. -/
theorem references_releaseFunction_of_last {function : Nat} {f : FunctionObject V}
    (found : w.function? function = some f) (last : f.references = 1) :
    (w.releaseFunction function).references function = 0 := by
  have functions : (w.releaseFunction function).functions =
      (w.modifyFunction function fun f => { f with references := f.references - 1 }).functions := by
    simp only [releaseFunction, found, last, if_true]
    rfl
  rw [references_congr functions, references_modifyFunction found, if_pos rfl, last]

/-- A callable that was made and is not what comes of publishing it is gone. -/
theorem not_isLive_of_lost {binding : Binding} {trampoline : Trampoline} {codec : Codec V}
    {made published : Nat × World σ V} {i : Nat} {name : String}
    (mint : made = w.mint binding trampoline codec)
    (publish : published = made.2.publish i name made.1) (lost : made.1 ≠ published.1) :
    ¬ published.2.IsLive made.1 := by
  have found : made.2.function? made.1 = some ⟨binding, trampoline, codec, 1⟩ := by
    rw [mint]
    exact function?_mint_new w binding trampoline codec
  subst publish
  cases living : made.2.livingAdapter? i with
  | none =>
    simp only [World.publish, living] at lost
    exact absurd rfl lost
  | some a =>
    cases cached : a.cached? name with
    | none =>
      simp only [World.publish, living, cached] at lost
      exact absurd rfl lost
    | some winner =>
      simp only [World.publish, living, cached] at lost ⊢
      rw [IsLive, references, function?_acquireFunction_ne _ lost, ← references,
        references_releaseFunction_of_last found rfl]
      exact Nat.lt_irrefl 0

end World

/-- A resolution that made a callable and gives another one has let it go. -/
def Span.LoserGone (span : Span σ V) : Prop :=
  ∀ i name function, span.event = .resolved i name (some function) →
    span.before.functions.length < span.after.functions.length →
    span.after.functions.length ≠ function →
    ¬ span.after.IsLive span.after.functions.length

theorem Course.loserGone {direct} {w w' : World σ V} {t : List (Span σ V)}
    (course : Course direct w t w') : Throughout Span.LoserGone t := by
  intro span occurs i name function resolved grew other
  cases course.arises span occurs with
  | @minted _ _ _ _ _ _ made published found isMethod hooks mint publish =>
    cases resolved
    have last : published.2.functions.length = made.1 := by
      rw [publish, World.length_functions_publish, mint]
      simp [World.mint]
    rw [last] at other ⊢
    exact World.not_isLive_of_lost mint publish other
  | hit => simp at grew
  | performed | refused | stored | called | read | written | replied | held | missed =>
    cases resolved

theorem Span.letsLosersGo {span : Span σ V} {hand : Hand} (booked : span.Booked hand)
    (gone : span.LoserGone) : span.LetsLosersGo := by
  intro i name function resolved made new other
  have after : span.after.Accounts (hand.take function) := by
    have handed := booked.2
    rw [Span.handAfter, resolved] at handed
    exact handed
  -- What is in hand around the resolution is older than what it made.
  have older : made ∉ hand.functions := by
    intro used
    obtain ⟨f, found, _⟩ := World.exists_function?_of_isLive (booked.1.isLive_of_mem used)
    exact absurd (World.le_length_of_function? found).2 (Nat.not_le_of_lt new)
  constructor
  · rw [after.inCustody made]
    simp [Hand.take, other, older]
  · rintro rfl
    exact gone i name function resolved new other

/-! ## What a callable is bound to -/

namespace Adapter

variable {a : Adapter V} {name n : String} {function f : Nat}

theorem trampoline_remember : (a.remember name function).trampoline = a.trampoline := by
  rw [remember]
  split <;> rfl

theorem codec_remember : (a.remember name function).codec = a.codec := by
  rw [remember]
  split <;> rfl

/-- What an adapter that remembers a callable has cached was cached before, or is
that callable. -/
theorem mem_methods_remember (cached : (n, f) ∈ (a.remember name function).methods) :
    (n, f) ∈ a.methods ∨ n = name ∧ f = function := by
  cases known : a.cached? name with
  | some winner =>
    rw [remember_of_cached? known] at cached
    exact Or.inl cached
  | none =>
    rw [methods_remember known] at cached
    rcases List.mem_append.mp cached with old | last
    · exact Or.inl old
    · cases List.mem_singleton.mp last
      exact Or.inr ⟨rfl, rfl⟩

end Adapter

namespace World

variable {w w' : World σ V}

/-- What adapters have cached is bound to their objects and to the names. -/
def CachesBound (w : World σ V) : Prop :=
  ∀ i a name function, w.livingAdapter? i = some a → (name, function) ∈ a.methods →
    ∃ f, w.function? function = some f ∧ f.binding = ⟨a.object, name⟩ ∧
      f.trampoline = a.trampoline ∧ f.codec = a.codec

theorem cachesBound_empty : (empty : World σ V).CachesBound := by
  intro i a name function living
  simp [empty, livingAdapter?] at living

/-- What an adapter has cached stays bound while function objects stay what they
are. -/
theorem CachesBound.kept (bound : w.CachesBound) (functions : w.KeepsFunctions w') {i : Nat}
    {a : Adapter V} {name : String} {function : Nat} (living : w.livingAdapter? i = some a)
    (cached : (name, function) ∈ a.methods) :
    ∃ f, w'.function? function = some f ∧ f.binding = ⟨a.object, name⟩ ∧
      f.trampoline = a.trampoline ∧ f.codec = a.codec := by
  obtain ⟨f, found, binding, trampoline, codec⟩ := bound i a name function living cached
  obtain ⟨count, found'⟩ := functions function f found
  exact ⟨_, found', binding, trampoline, codec⟩

/-- Where adapters are the same, or make less of what they were, and function
objects stay what they are, everything stays bound. -/
theorem CachesBound.of_alike (bound : w.CachesBound) (functions : w.KeepsFunctions w')
    (adapters : ∀ i a', w'.livingAdapter? i = some a' →
      ∃ a, w.livingAdapter? i = some a ∧ a.Alike a') : w'.CachesBound := by
  intro i a' name function living' cached
  obtain ⟨a, living, alike⟩ := adapters i a' living'
  rw [alike.methods] at cached
  obtain ⟨f, found, binding, trampoline, codec⟩ := bound.kept functions living cached
  exact ⟨f, found, by rw [alike.object, binding], trampoline.trans alike.trampoline.symm,
    codec.trans alike.codec.symm⟩

theorem Change.keepsFunctions (change : Change w w') : w.KeepsFunctions w' := by
  cases change with
  | allocated | declared | numbered | lent | stored | wrapped => exact .of_functions rfl
  | tended tends => exact tends.functions
  | resolved name living mint =>
    rw [mint]
    exact (KeepsFunctions.mint w _ _ _).trans (.publish _ _ name _)

theorem Becomes.keepsFunctions (becomes : w.Becomes w') : w.KeepsFunctions w' := by
  induction becomes with
  | refl => exact .of_functions rfl
  | tail _ change ih => exact ih.trans change.keepsFunctions

/-- A callable that is made and published is bound to what it was made for. -/
theorem CachesBound.published (bound : w.CachesBound) {i : Nat} {a : Adapter V}
    {made : Nat × World σ V} (name : String) (living : w.livingAdapter? i = some a)
    (mint : made = w.mint ⟨a.object, name⟩ a.trampoline a.codec) :
    (made.2.publish i name made.1).2.CachesBound := by
  have functions := (Change.resolved name living mint).keepsFunctions
  have still : made.2.livingAdapter? i = some a := by
    rw [mint]
    exact living
  intro j a' n function living' cached
  rw [livingAdapter?_publish still] at living'
  by_cases same : j = i
  · rw [if_pos same] at living'
    cases living'
    rw [Adapter.object_remember, Adapter.trampoline_remember, Adapter.codec_remember]
    rcases Adapter.mem_methods_remember cached with old | ⟨rfl, rfl⟩
    · exact bound.kept functions living old
    · have found : made.2.function? made.1 =
          some ⟨⟨a.object, n⟩, a.trampoline, a.codec, 1⟩ := by
        rw [mint]
        exact function?_mint_new w ⟨a.object, n⟩ a.trampoline a.codec
      obtain ⟨count, found'⟩ := KeepsFunctions.publish made.2 i n made.1 _ _ found
      exact ⟨_, found', rfl, rfl, rfl⟩
  · rw [if_neg same, mint] at living'
    exact bound.kept functions living' cached

theorem Change.cachesBound (change : Change w w') (bound : w.CachesBound) : w'.CachesBound := by
  have functions := change.keepsFunctions
  cases change with
  | allocated | declared | numbered | lent | stored =>
    exact bound.of_alike functions fun i a' living => ⟨a', living, rfl, rfl, rfl, rfl⟩
  | wrapped empty =>
    intro i a' name function living cached
    rcases new_or_living_of_addAdapter living with ⟨_, rfl⟩ | old
    · rw [empty] at cached
      cases cached
    · exact bound i a' name function old cached
  | tended tends => exact bound.of_alike functions tends.adapters
  | resolved name living mint => exact bound.published name living mint

theorem Becomes.cachesBound (becomes : w.Becomes w') (bound : w.CachesBound) :
    w'.CachesBound := by
  induction becomes with
  | refl => exact bound
  | tail _ change ih => exact change.cachesBound ih

/-- A function that the engine keeps is called through its own trampoline. -/
theorem perform_callFunction {function : Nat} {f : FunctionObject V}
    (found : w.function? function = some f) (kept : function ∈ w.retained) (entry : Entry σ V)
    (args : List V) :
    let dispatched := f.call entry args (w.acquireFunction function)
    perform entry (.callFunction function args) w =
      ⟨.accessed dispatched.value, dispatched.trace,
        dispatched.world.releaseFunction function⟩ := by
  simp only [perform, callRetained, withRetained, bind, Act.bind, Act.look, Act.update, pure,
    Act.pure, kept, if_true, found, List.nil_append, List.append_nil]

theorem KeepsFunctions.staysBound (functions : w.KeepsFunctions w') (bound : w.CachesBound) :
    w.StaysBound w' := by
  intro i a name function living cached
  obtain ⟨f, found, binding, trampoline, codec⟩ := bound.kept functions living cached
  exact ⟨f, found, binding, trampoline, codec, fun entry args kept =>
    perform_callFunction found kept entry args⟩

end World

/-- In every run, at every depth and in any nesting of resolutions, the function
objects alive are exactly those that adapters have cached, that the engine keeps
and that are in hand; the loser of a resolution is gone when it returns; an
adapter that is dropped lets go of exactly what nobody else has; and a callable
stays bound to what it was made for, also past its adapter. Nothing is in hand
where the run begins and where it ends. -/
theorem callables_live_while_owned (depth : Nat) (p : Routine σ V Unit) :
    let run := performProgram (entryAt depth) p .empty
    Along (fun hand span =>
      span.before.InCustody hand ∧ span.after.InCustody (span.handAfter hand) ∧
        span.LetsLosersGo ∧ span.before.DropsItsOwn hand) .empty run.trace ∧
    run.world.InCustody .empty ∧ run.world.DropsItsOwn .empty ∧
    InOrder World.StaysBound .empty run.trace run.world := by
  intro run
  have course : Course none .empty run.trace run.world := performProgram_course depth p .empty
  obtain ⟨along, _, ends⟩ := performProgram_entryAt_keeps depth p .empty .empty
    World.accounts_empty
  have ordered := course.becomes
  refine ⟨?_, ends.inCustody, ends.dropsItsOwn, ?_⟩
  · apply Along.imp _ _ _ along
    intro hand span occurs booked
    exact ⟨booked.1.inCustody, booked.2.inCustody,
      Span.letsLosersGo booked (course.loserGone span occurs), booked.1.dropsItsOwn⟩
  · have bound : ∀ u ∈ .empty :: (momentsOf run.trace ++ [run.world]), u.CachesBound := by
      intro u moment
      rcases List.mem_cons.mp moment with rfl | later
      · exact World.cachesBound_empty
      · exact (List.rel_of_pairwise_cons ordered later).cachesBound World.cachesBound_empty
    apply List.Pairwise.imp_of_mem _ ordered
    intro u u' moment _ becomes
    exact becomes.keepsFunctions.staysBound (bound u moment)

/-- While a method is resolved, it is resolved through the same adapter; the
engine keeps what it is given, and the adapter is dropped. -/
def keepingOne : Routine Nat Value Unit :=
  .request (.defineClass callee) fun _ => .request (.makeInstance 0 0) fun _ =>
    .request (.adapt 0 .direct none none .bound) fun _ =>
      .request (.resolve 0 "m" true none
        (.request (.resolve 0 "m" false none (.done ()) (.done ())) fun _ => .done ())
        (.done ())) fun _ => .request (.dropAdapter 0) fun _ => .done ()

/-- The callable that is kept outlives its adapter; the one that lost does not. -/
theorem kept_callable_outlives_its_adapter :
    let run := performProgram (entryAt 1) keepingOne .empty
    run.world.adapters = [none] ∧ run.world.IsLive 1 ∧ ¬ run.world.IsLive 2 := by
  intro run
  obtain ⟨_, custody, _⟩ := callables_live_while_owned 1 keepingOne
  have dropped : run.world.adapters = [none] := rfl
  have kept : run.world.retained = [1] := rfl
  refine ⟨dropped, (custody 1).mpr (Or.inr (Or.inl ?_)), ?_⟩
  · rw [kept]
    exact List.mem_singleton_self 1
  · intro live
    rcases (custody 2).mp live with ⟨i, a, living, _⟩ | keeps | used
    · have nobody := World.lt_length_of_livingAdapter? living
      rw [dropped] at nobody
      cases i with
      | zero => cases living
      | succ i => exact absurd nobody (by simp)
    · rw [kept] at keeps
      cases List.mem_singleton.mp keeps
    · cases used

end Membrane
