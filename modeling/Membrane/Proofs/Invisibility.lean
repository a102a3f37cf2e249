import Membrane.Proofs.Interchange
import Membrane.Proofs.Lifetimes

/-!
# Resolutions are not seen, and adapters are interchangeable

Two runs are compared. In the first comparison one of them resolves methods where the
other does not, at any depth; in the second the accesses of one go through other
adapters over the same objects.
-/

namespace Membrane

variable {σ V : Type}

/-! ## Between runs -/

/-- A world as runs leave it: what counts references and handles is in order, with
nothing in hand; adapters have cached what is theirs; and no operation runs. -/
structure World.Sound (w : World σ V) : Prop where
  accounts : w.Accounts .empty
  bound : w.CachesBound
  methods : w.CachesMethods
  rest : w.AtRest

theorem World.sound_empty : (World.empty : World σ V).Sound :=
  ⟨accounts_empty, cachesBound_empty, cachesMethods_empty, atRest_empty⟩

/-- Runs leave worlds as they should be. -/
theorem World.Sound.performProgram {w : World σ V} (sound : w.Sound) (depth : Nat)
    (p : Routine σ V Unit) : (performProgram (entryAt depth) p w).world.Sound := by
  have course := performProgram_course depth p w
  obtain ⟨_, _, accounts⟩ := performProgram_entryAt_keeps depth p .empty w sound.accounts
  exact ⟨accounts, course.becomes.ends.cachesBound sound.bound,
    course.inOrder.ends.cachesMethods sound.methods, atRest_performProgram depth p sound.rest⟩

/-- Two runs may differ in what they resolve. A number of one and a number of the other
stand for one callable if they do so when the runs are over. -/
def Leeway.between (end₁ end₂ : World σ V) : Leeway V :=
  .resolutions end₁.callable? end₂.callable?

/-- A run keeps to the callables that are there when it is over. -/
theorem World.Sound.keepsTo {w : World σ V} (sound : w.Sound) (depth : Nat)
    (p : Routine σ V Unit) :
    let run := Membrane.performProgram (entryAt depth) p w
    Throughout (Span.KeepsTo run.world.callable?) run.trace := by
  intro run span occurs
  have course := performProgram_course depth p w
  obtain ⟨booked, _, _⟩ := performProgram_entryAt_keeps depth p .empty w sound.accounts
  obtain ⟨_, becomes, _⟩ := inOrder_iff.mp course.becomes
  obtain ⟨_, leads, _⟩ := inOrder_iff.mp course.inOrder
  exact {
    before := fun n f => callable?_of_keeps (becomes _ occurs.before_mem).2.keepsFunctions
    after := fun n f => callable?_of_keeps (becomes _ occurs.after_mem).2.keepsFunctions
    bound := (becomes _ occurs.before_mem).1.cachesBound sound.bound
    methods := (leads _ occurs.before_mem).1.cachesMethods sound.methods
    retained := by
      intro n kept
      obtain ⟨hand, accounts, _⟩ := booked.of_occurs occurs
      obtain ⟨f, found, _⟩ := exists_function?_of_isLive (accounts.isLive_of_retained kept)
      rw [callable?, found]
      exact Option.some_ne_none _ }

/-- Resolutions are not seen. Two programs are run that are the same, in worlds that are
the same, but for requests to resolve a method whose callable is not called, anywhere in
the programs and in what members run however deeply they re-enter. While the engine makes
a callable it touches neither host objects nor adapters, and what it calls and lets go of
it keeps in both runs or in neither. Then the same is done at host objects and through
adapters with the same results, in the same nesting, and at each moment host objects are
in the same state; different are only caches, the numbers of callables, and counts.

Adapters are interchangeable. Two programs are run that are the same, in worlds that are
the same, but for the adapters through which accesses are made, wherever in the programs
and in what members run. At each access both adapters are over the same object and have
the same codec and options, whatever they have cached. Then the same is done with the
same results, and the end is the same in all that worlds consist of, the programs that
objects run apart. At each moment before that, everything is the same too, and so is
every answer, unless an adapter that was dropped is still in use then. -/
theorem resolving_is_invisible_and_adapters_are_interchangeable (depth : Nat) :
    (∀ (p p' : Routine σ V Unit) (w w' : World σ V),
      let run := performProgram (entryAt depth) p w
      let run' := performProgram (entryAt depth) p' w'
      let m := Leeway.between run.world run'.world
      p.Alike m p' → w.Alike m w' → w.Sound → w'.Sound → UseSame run.trace run'.trace →
        TraceAlike m run.trace run'.trace ∧ deedsOf run.trace = deedsOf run'.trace ∧
          run.world.Alike m run'.world) ∧
    (∀ (p p' : Routine σ V Unit) (w w' : World σ V),
      let run := performProgram (entryAt depth) p w
      let run' := performProgram (entryAt depth) p' w'
      p.Alike .adapters p' → w.Alike .adapters w' → w.Sound → w'.Sound →
      Meet run.trace run'.trace →
        TraceAlike .adapters run.trace run'.trace ∧ deedsOf run.trace = deedsOf run'.trace ∧
          (∀ span span', Beside run.trace run'.trace span span' → span.Same span') ∧
          run.world.SameState run'.world ∧ run.world.adapters = run'.world.adapters) := by
  constructor
  · intro p p' w w' run run' m programs worlds sound sound' uses
    have alike := performProgram_twin depth programs w w' worlds
      ⟨sound.keepsTo depth p, sound'.keepsTo depth p', uses⟩
    exact ⟨alike.trace, alike.trace.deedsOf, alike.world⟩
  · intro p p' w w' run run' programs worlds sound sound' meets
    have alike := performProgram_twin depth programs w w' worlds meets
    have ends : run.world.Sound := sound.performProgram depth p
    have ends' : run'.world.Sound := sound'.performProgram depth p'
    obtain ⟨booked, _, _⟩ := performProgram_entryAt_keeps depth p .empty w sound.accounts
    obtain ⟨booked', _, _⟩ := performProgram_entryAt_keeps depth p' .empty w' sound'.accounts
    have same := alike.world.sameState ends.accounts ends'.accounts ends.rest.noneLingers
      ends'.rest.noneLingers
    exact ⟨alike.trace, alike.trace.deedsOf, fun _ _ => alike.trace.same booked booked', same,
      same.adapters_eq ends.rest ends'.rest⟩

/-- A class with a property whose getter drops the first adapter. -/
def leaving : HostClass Nat (Request Nat Value) (Answer Nat Value) where
  name := "Leaving"
  kind := .reference
  declarations := [
    .method "m" none fun state _ => .done (state, .ok .null),
    .property "p" .int (some fun _ _ =>
      .request (.dropAdapter 0) fun _ => .done (.ok (.int 7))) none]
  indexer := none

/-- The first of two adapters finds a callable, and the property is read through one of
them. -/
def leavingThrough (i : Nat) : Routine Nat Value Unit :=
  .request (.defineClass leaving) fun _ => .request (.makeInstance 0 0) fun _ =>
    .request (.adapt 0 .direct none none .bound) fun _ =>
      .request (.adapt 0 .direct none none .bound) fun _ =>
        .request (.resolve 0 "m" false none (.done ()) (.done ())) fun _ =>
          .request (.access i (.getProperty "p")) fun _ => .done ()

/-- Through which adapter the property is read is seen when the first is dropped: while
the access runs on it its callable is alive, and otherwise it is not. -/
theorem dropped_adapter_in_use_is_told :
    let run (i : Nat) := performProgram (entryAt 1) (leavingThrough i) .empty
    Meet (run 0).trace (run 1).trace ∧
      ∃ span span', Beside (run 0).trace (run 1).trace span span' ∧
        span.event = .performed (.dropAdapter 0) (.live 1) ∧
        span'.event = .performed (.dropAdapter 0) (.live 0) ∧
        span.after.liveFunctions ≠ span'.after.liveFunctions := by
  intro run
  constructor
  · intro access mem
    cases List.mem_singleton.mp mem
    rfl
  · -- The access calls the object, whose getter runs and drops the adapter.
    refine ⟨_, _, .later (.later (.later (.later (.later (.inside id (.inside id (.inside id
      .here))))))), rfl, rfl, ?_⟩
    decide

/-- What shows a property and a method. -/
def gauge : Surface where
  typeName := "Gauge"
  kind := .reference
  members name := if name = "reset" then [.method] else []
  property name := if name = "level" then some ⟨"level", .int, true, false⟩ else none
  indexer := none
  length := 0

/-- Replies that may resolve the method first, through the first adapter. -/
def levelOf (resolves : Bool) : HostCall → Option (Routine Nat Value (Except Fault Value)) :=
  fun _ => some <|
    if resolves then
      .request (.resolve 0 "reset" true none (.done ()) (.done ())) fun _ => .done (.ok (.int 7))
    else .done (.ok (.int 7))

/-- The property is read through one of two adapters. -/
def reading (resolves : Bool) (i : Nat) : Routine Nat Value Unit :=
  .request (.makeHandwritten gauge (levelOf resolves)) fun _ =>
    .request (.adapt 0 .direct none none .bound) fun _ =>
      .request (.adapt 0 .direct none none .bound) fun _ =>
        .request (.access i (.getProperty "level")) fun _ => .done ()

theorem aloof_done : (.done () : Routine σ V Unit).Aloof :=
  fun _ _ => ⟨fun _ => rfl, rfl, rfl, rfl⟩

/-- Readings differ in how the object replies and in the adapter. -/
theorem reading_alike {m : Leeway Value} {resolves resolves' : Bool} {i j : Nat}
    (replies : ∀ {q q' : Routine Nat Value (Except Fault Value)} {call : HostCall},
      levelOf resolves call = some q → levelOf resolves' call = some q' → q.Alike m q')
    (swaps : m.Swaps i j) : (reading resolves i).Alike m (reading resolves' j) := by
  have read : Program.Alike m (.request (.access i (.getProperty "level")) fun _ => .done ())
      (.request (.access j (.getProperty "level")) fun _ => .done () : Routine Nat Value Unit) := by
    refine .request (.access swaps _) ?_ (.done ()) fun _ _ _ => .done ()
    intro β q q' pairs
    cases pairs
  have wrapped {next next' : Routine Nat Value Unit} (alike : next.Alike m next') :
      Program.Alike m (.request (.adapt 0 .direct none none .bound) fun _ => next)
        (.request (.adapt 0 .direct none none .bound) fun _ => next') := by
    refine .request (.plain trivial) ?_ alike fun _ _ _ => alike
    intro β q q' pairs
    cases pairs
  refine .request (.makeHandwritten gauge fun _ => rfl) ?_ (wrapped (wrapped read)) fun _ _ _ =>
    wrapped (wrapped read)
  intro β q q' pairs
  cases pairs with
  | reply chosen chosen' => exact replies chosen chosen'

/-- A method is resolved while a property is read, and it is the same but for the
callable; the property is read through the other adapter, and it is all the same. -/
theorem reading_does_not_show :
    let run (resolves : Bool) (i : Nat) := performProgram (entryAt 1) (reading resolves i) .empty
    deedsOf (run true 0).trace = deedsOf (run false 0).trace ∧
      (run true 0).world.functions.length = 1 ∧ (run false 0).world.functions.length = 0 ∧
      deedsOf (run true 0).trace = deedsOf (run true 1).trace ∧
      (run true 0).world.adapters = (run true 1).world.adapters := by
  intro run
  obtain ⟨unseen, interchangeable⟩ :=
    resolving_is_invisible_and_adapters_are_interchangeable (σ := Nat) (V := Value) 1
  have same (m : Leeway Value) : (.empty : World Nat Value).Alike m .empty :=
    ⟨fun _ => .none, fun _ => .none, rfl, rfl, fun _ => rfl, fun _ => ⟨fun _ => rfl, rfl, rfl⟩⟩
  have resolved := unseen (reading true 0) (reading false 0) .empty .empty
    (reading_alike (by
      rintro q q' call ⟨⟩ ⟨⟩
      exact .inserted rfl 0 "reset" true ⟨aloof_done, aloof_done⟩ fun _ => .done _) rfl)
    (same _) World.sound_empty World.sound_empty (by
      intro pair mem
      cases mem)
  have swapped := interchangeable (reading true 0) (reading true 1) .empty .empty
    (reading_alike (by
      rintro q q' call ⟨⟩ ⟨⟩
      refine .request (.resolve 0 "reset" true none ?_ ?_) ?_ (.done _) fun _ _ _ => .done _
      · exact ⟨aloof_done, aloof_done, fun _ _ _ _ same => same⟩
      · exact ⟨aloof_done, aloof_done, fun _ _ _ _ same => same⟩
      · intro β q q' pairs
        cases pairs) trivial)
    (same _) World.sound_empty World.sound_empty (by
      intro access mem
      cases List.mem_singleton.mp mem
      rfl)
  exact ⟨resolved.2.1, rfl, rfl, swapped.2.1, swapped.2.2.2.2⟩

end Membrane
