import Membrane.Proofs.Twins

/-!
# Callables in two runs

A resolution whose hooks leave the world as it is changes nothing that is seen where
resolutions may come and go, and finds a callable exactly where the first member of
the name is a method, whatever is cached. Where they may not, two runs find the same.
Either way numbers that stand for each other are numbers of callables that are called
alike.
-/

namespace Membrane

variable {σ V α : Type} {m : Leeway V}

/-- The callable that an adapter makes for a name. -/
def Adapter.callable (a : Adapter V) (name : String) : FunctionObject V :=
  ⟨⟨a.object, name⟩, a.trampoline, a.codec, 0⟩

theorem Adapter.callable_congr {a a' : Adapter V} (same : a.shown m = a'.shown m)
    (name : String) : a.callable name = a'.callable name := by
  have object : a.object = a'.object := congrArg (·.object) same
  have codec : a.codec = a'.codec := congrArg (·.codec) same
  have trampoline : a.trampoline = a'.trampoline := congrArg (·.trampoline) same
  rw [callable, callable, object, codec, trampoline]

/-- Where resolutions may not come and go, adapters have the same cached. -/
theorem Adapter.methods_congr {a a' : Adapter V} (only : m.inserts = false)
    (same : a.shown m = a'.shown m) : a.methods = a'.methods := by
  have shown := congrArg (·.methods) same
  simpa only [Adapter.shown, only, Bool.false_eq_true, if_false] using shown

/-- What an adapter has cached is the callable that it makes for the name. -/
theorem World.CachesBound.callable? {w : World σ V} (bound : w.CachesBound) {i n : Nat}
    {a : Adapter V} {name : String} (living : w.livingAdapter? i = some a)
    (cached : a.cached? name = some n) : w.callable? n = some (a.callable name) := by
  obtain ⟨⟨_, _, _, references⟩, found, rfl, rfl, rfl⟩ :=
    bound i a name n living (Adapter.mem_methods_of_cached? cached)
  rw [World.callable?, found]
  rfl

/-! ## Calls of callables -/

theorem FunctionObject.call_congr {f f' : FunctionObject V} (same : f.lasting = f'.lasting)
    (entry : Entry σ V) (args : List V) : f.call entry args = f'.call entry args := by
  obtain ⟨binding, trampoline, codec, references⟩ := f
  obtain ⟨binding', trampoline', codec', references'⟩ := f'
  cases same
  rfl

section

variable {entry : Entry σ V} {w w' : World σ V} {n n' : Nat}

/-- Function objects that are the same but for their references are called alike. -/
theorem twin_call (runs : entry.RunsAlike m) {f f' : FunctionObject V}
    (same : f.lasting = f'.lasting) (args : List V) :
    (f.call entry args).Twin m Eq (f'.call entry args) := by
  rw [FunctionObject.call_congr same]
  exact (twin_callClosed runs).call f' args

theorem twinAt_callFunction (runs : entry.RunsAlike m) (same : w.callable? n = w'.callable? n')
    (args : List V) :
    (callFunction entry n args).TwinAt m Eq (callFunction entry n' args) w w' := by
  apply Act.TwinAt.look_bind
  have functions := World.rel_of_map_eq same
  generalize w.function? n = place, w'.function? n' = place' at functions ⊢
  cases functions with
  | none => exact Act.Twin.pure rfl w w'
  | some kinds => exact twin_call runs kinds args w w'

/-- The engine keeps one callable under a number in one world and under a number in
another, or none under either. -/
structure UsedAlike (w w' : World σ V) (n n' : Nat) : Prop where
  kept : n ∈ w.retained ↔ n' ∈ w'.retained
  same : n ∈ w.retained → w.callable? n = w'.callable? n'

theorem twinAt_withRetained {act act' : FunctionObject V → Act σ V (Answer σ V)}
    (used : UsedAlike w w' n n')
    (each : ∀ f f', f.lasting = f'.lasting → (act f).Twin m (Answer.Alike m) (act' f')) :
    (withRetained n act).TwinAt m (Answer.Alike m) (withRetained n' act') w w' := by
  apply Act.TwinAt.look_bind
  by_cases kept : n ∈ w.retained
  · rw [if_pos kept, if_pos (used.kept.mp kept)]
    have functions := World.rel_of_map_eq (used.same kept)
    generalize w.function? n = place, w'.function? n' = place' at functions ⊢
    cases functions with
    | none => exact Act.Twin.pure (.plain trivial) w w'
    | some kinds => exact each _ _ kinds w w'
  · rw [if_neg kept, if_neg (mt used.kept.mpr kept)]
    exact Act.Twin.pure (.plain trivial) w w'

theorem twinAt_callRetained (runs : entry.RunsAlike m) (used : UsedAlike w w' n n')
    (args : List V) :
    (callRetained entry n args).TwinAt m (Answer.Alike m) (callRetained entry n' args) w w' := by
  apply twinAt_withRetained used
  intro f f' kinds
  apply Act.Twin.update_bind
  · exact fun w w' alike => alike.unseen (w.unseen_acquireFunction n) (w'.unseen_acquireFunction n')
  · apply (twin_call runs kinds args).bind_eq
    intro result
    apply Act.Twin.update_bind
    · exact fun w w' alike =>
        alike.unseen (w.unseen_releaseFunction n) (w'.unseen_releaseFunction n')
    · exact .pure (.plain trivial)

/-- Numbers that stand for one callable are used alike, as far as is known of the two
runs. -/
theorem Leeway.Admits.usedAlike {r r' : Request σ V} {answer answer' : Answer σ V}
    {v v' : World σ V} {t t' : List (Span σ V)}
    (admits : m.Admits [⟨.performed r answer, w, v, t⟩] [⟨.performed r' answer', w', v', t'⟩])
    (alike : w.Alike m w') (stands : m.Stands n n') (names : r.function? = some n)
    (names' : r'.function? = some n') : UsedAlike w w' n n' := by
  cases m with
  | adapters =>
    cases stands
    have same := alike.callables rfl
    exact ⟨by rw [same.retained], fun _ => same.callables n⟩
  | resolutions callable callable' =>
    obtain ⟨keeps, keeps', uses⟩ := admits
    have here := (throughout_cons.mp keeps).1
    have here' := (throughout_cons.mp keeps').1
    have both : n ∈ w.retained ↔ n' ∈ w'.retained := by
      apply uses ((w, n), (w', n'))
      rw [gather_singleton id, gather_singleton id, Span.names_performed names,
        Span.names_performed names']
      exact List.mem_cons_self
    refine ⟨both, fun kept => ?_⟩
    obtain ⟨f, found⟩ := Option.ne_none_iff_exists'.mp (here.retained n kept)
    obtain ⟨f', found'⟩ := Option.ne_none_iff_exists'.mp (here'.retained n' (both.mp kept))
    have listed : callable n = some f := here.before n f found
    have listed' : callable' n' = some f' := here'.before n' f' found'
    rw [found, found', ← listed, ← listed']
    exact stands

/-! ## Using a callable -/

theorem twin_allocate (template : Template) :
    (Act.change (·.allocate (.ofTemplate template)) : Act σ V ObjectRef).Twin m Eq
      (.change (·.allocate (.ofTemplate template))) :=
  .change fun _ _ alike => alike.allocate (.ofTemplate template)

theorem twin_read (literal : Literal V) :
    ((literal.read : Routine σ V V).run entry).Twin m Eq (literal.read.run entry) := by
  cases literal with
  | value v => exact .pure rfl
  | handle number wrap =>
    apply (twin_handle? number).bind_eq
    intro ref
    exact .pure rfl
  | fresh template wrap =>
    apply (twin_allocate template).bind_eq
    intro ref
    exact .pure rfl

/-- Literals are read alike. -/
theorem twin_readAll (literals : List (Literal V)) :
    ((Literal.readAll literals : Routine σ V (List V)).run entry).Twin m Eq
      ((Literal.readAll literals).run entry) := by
  induction literals with
  | nil => exact .pure rfl
  | cons first rest ih =>
    rw [Literal.readAll, Program.run_bind]
    apply (twin_read first).bind_eq
    intro v
    rw [Program.run_bind]
    apply ih.bind_eq
    intro vs
    exact .pure rfl

/-- Reading literals makes no function object. -/
theorem functions_readAll (literals : List (Literal V)) (w : World σ V) :
    ((Literal.readAll literals : Routine σ V (List V)).run entry w).world.functions =
      w.functions := by
  induction literals generalizing w with
  | nil => rfl
  | cons first rest ih =>
    have here : ((first.read : Routine σ V V).run entry w).world.functions = w.functions := by
      cases first <;> rfl
    rw [Literal.readAll, Program.run_bind, ← here]
    show (Program.run entry (Program.bind _ _) _).world.functions = _
    rw [Program.run_bind]
    exact ih _

theorem twinAt_callAtOnce (runs : entry.RunsAlike m) (same : w.callable? n = w'.callable? n')
    (args : Option (List (Literal V))) :
    (callAtOnce entry n args).TwinAt m Eq (callAtOnce entry n' args) w w' := by
  cases args with
  | none => exact Act.Twin.pure rfl w w'
  | some literals =>
    apply (twin_readAll literals w w').bind
    intro read
    rw [read]
    refine Act.TwinAt.bind (twinAt_callFunction runs ?_ _) ?_
    · rw [World.callable?, World.callable?, World.function?_congr (functions_readAll literals w),
        World.function?_congr (functions_readAll literals w')]
      exact same
    · intro result
      rw [result]
      exact Act.Twin.pure rfl _ _

/-- What the engine keeps changes no callable. -/
theorem World.callable?_retain (w : World σ V) (k n : Nat) :
    (w.retain k).callable? n = w.callable? n :=
  callable?_eq_of_keeps (.retain w k) (w.length_functions_retain k) n

/-- A callable that was found in both runs is used alike. -/
theorem twinAt_useFunction (runs : entry.RunsAlike m) (stands : m.Stands n n')
    (same : w.callable? n = w'.callable? n') (retain : Bool) (args : Option (List (Literal V))) :
    (useFunction entry n retain args).TwinAt m (Answer.Alike m) (useFunction entry n' retain args)
      w w' := by
  intro alike admits
  rw [useFunction_eq, useFunction_eq] at admits ⊢
  have kept : (if retain then w.retain n else w).Alike m (if retain then w'.retain n' else w') := by
    cases retain with
    | true => exact alike.retain stands
    | false => exact alike
  have still : (if retain then w.retain n else w).callable? n =
      (if retain then w'.retain n' else w').callable? n' := by
    cases retain with
    | true => exact (w.callable?_retain n n).trans (same.trans (w'.callable?_retain n' n').symm)
    | false => exact same
  have body := twinAt_callAtOnce runs still args kept admits
  rw [body.value]
  exact ⟨.resolved stands _, body.trace,
    body.world.unseen (World.unseen_releaseFunction _ n) (World.unseen_releaseFunction _ n')⟩

end

/-! ## Finding a callable -/

namespace World

variable {w w' : World σ V} {i : Nat} {name : String} {a a' : Adapter V}

/-- The world once a callable is made for a name that an adapter does not have, if
the engine lets the adapter own its object and does nothing more. -/
def makeCallable (w : World σ V) (i : Nat) (a : Adapter V) (name : String) : World σ V :=
  let made := w.mint ⟨a.object, name⟩ a.trampoline a.codec
  (made.2.modifyAdapter i fun a =>
    { a with methods := a.methods ++ [(name, made.1)] }).acquireFunction made.1

/-- What is published first is what an adapter has from then on. -/
theorem publish_of_uncached {n : Nat} (living : w.livingAdapter? i = some a)
    (uncached : a.cached? name = none) :
    w.publish i name n = (n, (w.modifyAdapter i fun a =>
      { a with methods := a.methods ++ [(name, n)] }).acquireFunction n) := by
  simp only [publish, living, uncached]

theorem unseen_makeCallable (free : m.inserts = true) (w : World σ V) (i : Nat) (a : Adapter V)
    (name : String) : w.Unseen m (w.makeCallable i a name) := by
  have made := (w.touchesCallables_mint ⟨a.object, name⟩ a.trampoline a.codec).unseen free
  refine made.trans (Unseen.trans (unseen_modifyAdapter _ i ?_ ?_) (unseen_acquireFunction _ _))
  · exact fun _ => rfl
  · intro a
    simp only [Adapter.shown, free, if_true]

theorem callable?_acquireFunction (w : World σ V) (k n : Nat) :
    (w.acquireFunction k).callable? n = w.callable? n :=
  callable?_eq_of_keeps (.acquireFunction w k) (w.length_functions_acquireFunction k) n

theorem callable?_mint (w : World σ V) (binding : Binding) (trampoline : Trampoline)
    (codec : Codec V) (n : Nat) :
    (w.mint binding trampoline codec).2.callable? n =
      if n = w.functions.length + 1 then some ⟨binding, trampoline, codec, 0⟩
      else w.callable? n := by
  rw [callable?, function?_mint]
  split <;> rfl

theorem callable?_makeCallable (w : World σ V) (i : Nat) (a : Adapter V) (name : String) :
    (w.makeCallable i a name).callable? (w.functions.length + 1) = some (a.callable name) := by
  rw [makeCallable, callable?_acquireFunction]
  show (w.mint _ _ _).2.callable? _ = _
  rw [callable?_mint]
  exact if_pos rfl

/-- Both worlds make the same function object. -/
theorem SameCallables.mint (same : w.SameCallables w') (binding : Binding)
    (trampoline : Trampoline) (codec : Codec V) :
    (w.mint binding trampoline codec).2.SameCallables (w'.mint binding trampoline codec).2 where
  callables n := by rw [callable?_mint, callable?_mint, same.callables, same.minted]
  minted := by simp only [World.mint, List.length_append, List.length_singleton, same.minted]
  retained := same.retained

/-- Both worlds let an adapter remember a callable. -/
theorem Alike.addMethod (alike : w.Alike m w') (i : Nat) (entry : String × Nat) :
    (w.modifyAdapter i fun a => { a with methods := a.methods ++ [entry] }).Alike m
      (w'.modifyAdapter i fun a => { a with methods := a.methods ++ [entry] }) := by
  refine alike.modifyAdapter i ?_ ?_ ?_
  · exact fun _ => rfl
  · exact fun _ => rfl
  · intro a a' same
    rw [Adapter.shown, Adapter.shown, Adapter.mk.injEq] at same ⊢
    cases only : m.inserts with
    | true => simp_all
    | false => simp_all

/-- Where resolutions may not come and go, both worlds make the same callable. -/
theorem Alike.makeCallable (only : m.inserts = false) (alike : w.Alike m w')
    (same : a.shown m = a'.shown m) :
    (w.makeCallable i a name).Alike m (w'.makeCallable i a' name) := by
  have object : a.object = a'.object := congrArg (·.object) same
  have codec : a.codec = a'.codec := congrArg (·.codec) same
  have trampoline : a.trampoline = a'.trampoline := congrArg (·.trampoline) same
  have callables := alike.callables only
  have minted := alike.touchCallables
    (w.touchesCallables_mint ⟨a.object, name⟩ a.trampoline a.codec)
    (w'.touchesCallables_mint ⟨a.object, name⟩ a.trampoline a.codec) fun _ => callables.mint _ _ _
  have number : (w'.mint ⟨a.object, name⟩ a.trampoline a.codec).1 =
      (w.mint ⟨a.object, name⟩ a.trampoline a.codec).1 := congrArg (· + 1) callables.minted.symm
  rw [World.makeCallable, World.makeCallable, ← object, ← codec, ← trampoline]
  rw [number]
  exact (minted.addMethod i _).unseen (unseen_acquireFunction _ _) (unseen_acquireFunction _ _)

end World

section

variable {w w' : World σ V} {i : Nat} {a a' : Adapter V}
  {duringWrap duringMake duringWrap' duringMake' : Routine σ V Unit} (depth : Nat) (name : String)

/-- The world when the engine has done what it does while a callable is made. -/
def World.readied (w : World σ V) (depth : Nat) (a : Adapter V)
    (duringWrap duringMake : Routine σ V Unit) : World σ V :=
  let wrapped := performProgram (entryAt depth) duringWrap (w.acquireHandle a.object.id)
  (performProgram (entryAt depth) duringMake wrapped.world).world

/-- A resolution as it is performed at some depth. -/
def finding (depth i : Nat) (name : String) (duringWrap duringMake : Routine σ V Unit) :
    Act σ V (Option Nat) :=
  findCallable i name (performProgram (entryAt depth) duringWrap)
    (performProgram (entryAt depth) duringMake)

theorem World.touchesCallables_readied (aloof : duringWrap.Aloof ∧ duringMake.Aloof)
    (w : World σ V) (a : Adapter V) :
    (w.acquireHandle a.object.id).TouchesCallables (w.readied depth a duringWrap duringMake) :=
  (aloof.1 depth _).trans (aloof.2 depth _)

/-- Where resolutions may not come and go, the engine readies both worlds alike. -/
theorem World.Alike.readied (only : m.inserts = false) (alike : w.Alike m w')
    (wrapping : Program.Hooks m duringWrap duringWrap')
    (making : Program.Hooks m duringMake duringMake') :
    (w.readied depth a duringWrap duringMake).Alike m
      (w'.readied depth a' duringWrap' duringMake') := by
  have owned := alike.unseen (w.unseen_acquireHandle a.object.id)
    (w'.unseen_acquireHandle a'.object.id)
  refine owned.touchCallables
    (World.touchesCallables_readied depth ⟨wrapping.aloof, making.aloof⟩ w a)
    (World.touchesCallables_readied depth ⟨wrapping.aloof', making.aloof'⟩ w' a') fun _ => ?_
  exact making.together only depth _ _ (wrapping.together only depth _ _ (owned.callables only))

/-- A resolution whose hooks touch no adapter makes a callable where the adapter has
none and the first member of the name is a method. -/
theorem finding_of_aloof (aloof : duringWrap.Aloof ∧ duringMake.Aloof)
    (living : w.livingAdapter? i = some a) (uncached : a.cached? name = none)
    (isMethod : ((w.surface a.object).members name).head? = some .method) :
    let ready := w.readied depth a duringWrap duringMake
    (finding depth i name duringWrap duringMake w).value = some (ready.functions.length + 1) ∧
      (finding depth i name duringWrap duringMake w).world = ready.makeCallable i a name := by
  intro ready
  have still : (ready.mint ⟨a.object, name⟩ a.trampoline a.codec).2.livingAdapter? i = some a :=
    (World.livingAdapter?_congr (World.touchesCallables_readied depth aloof w a).adapters i).trans
      living
  rw [finding, findCallable_of_method living uncached isMethod]
  exact ⟨congrArg (some ·.1) (World.publish_of_uncached still uncached),
    congrArg (·.2) (World.publish_of_uncached still uncached)⟩

/-- Where resolutions may come and go, nothing is seen of one. -/
theorem unseen_finding (free : m.inserts = true) (aloof : duringWrap.Aloof ∧ duringMake.Aloof)
    (living : w.livingAdapter? i = some a) :
    w.Unseen m (finding depth i name duringWrap duringMake w).world := by
  cases cached : a.cached? name with
  | some n =>
    rw [finding, findCallable_of_cached living cached]
    exact w.unseen_acquireFunction n
  | none =>
    by_cases isMethod : ((w.surface a.object).members name).head? = some .method
    · rw [(finding_of_aloof depth name aloof living cached isMethod).2]
      have readied := (World.touchesCallables_readied depth aloof w a).unseen free
      exact (w.unseen_acquireHandle a.object.id).trans
        (readied.trans (World.unseen_makeCallable free _ i a name))
    · rw [finding, findCallable_of_other living cached isMethod]
      exact .refl m w

/-- A resolution finds a callable exactly where the first member of the name is a
method, whatever is cached, and always the same. -/
theorem found_of_isMethod (aloof : duringWrap.Aloof ∧ duringMake.Aloof)
    (living : w.livingAdapter? i = some a) (bound : w.CachesBound) (methods : w.CachesMethods) :
    let outcome := finding depth i name duringWrap duringMake w
    if ((w.surface a.object).members name).head? = some .method then
      ∃ n, outcome.value = some n ∧ outcome.world.callable? n = some (a.callable name)
    else outcome.value = none := by
  intro outcome
  cases cached : a.cached? name with
  | some n =>
    have found : outcome = ⟨some n, [], w.acquireFunction n⟩ := findCallable_of_cached living cached
    have isMethod := methods.isMethod i a name n living (Adapter.mem_methods_of_cached? cached)
    rw [found, if_pos isMethod]
    exact ⟨n, rfl, (w.callable?_acquireFunction n n).trans (bound.callable? living cached)⟩
  | none =>
    by_cases isMethod : ((w.surface a.object).members name).head? = some .method
    · obtain ⟨value, world⟩ := finding_of_aloof depth name aloof living cached isMethod
      rw [world, if_pos isMethod]
      exact ⟨_, value, World.callable?_makeCallable _ i a name⟩
    · have found : outcome = ⟨none, [], w⟩ := findCallable_of_other living cached isMethod
      rw [found, if_neg isMethod]

/-- Where resolutions may not come and go, both runs find the same. -/
theorem finding_alike (only : m.inserts = false) (alike : w.Alike m w')
    (living : w.livingAdapter? i = some a) (living' : w'.livingAdapter? i = some a')
    (same : a.shown m = a'.shown m) (wrapping : Program.Hooks m duringWrap duringWrap')
    (making : Program.Hooks m duringMake duringMake') :
    let outcome := finding depth i name duringWrap duringMake w
    let outcome' := finding depth i name duringWrap' duringMake' w'
    outcome.value = outcome'.value ∧ outcome.world.Alike m outcome'.world := by
  intro outcome outcome'
  have object : a.object = a'.object := congrArg (·.object) same
  have methods : a.methods = a'.methods := Adapter.methods_congr only same
  have surfaces : w.surface a.object = w'.surface a'.object := object ▸ alike.surface a.object
  cases cached : a.cached? name with
  | some n =>
    have cached' : a'.cached? name = some n := by rw [Adapter.cached?, ← methods]; exact cached
    have found : outcome = ⟨some n, [], w.acquireFunction n⟩ := findCallable_of_cached living cached
    have found' : outcome' = ⟨some n, [], w'.acquireFunction n⟩ :=
      findCallable_of_cached living' cached'
    rw [found, found']
    exact ⟨rfl, alike.unseen (w.unseen_acquireFunction n) (w'.unseen_acquireFunction n)⟩
  | none =>
    have cached' : a'.cached? name = none := by rw [Adapter.cached?, ← methods]; exact cached
    by_cases isMethod : ((w.surface a.object).members name).head? = some .method
    · obtain ⟨value, world⟩ := finding_of_aloof depth name ⟨wrapping.aloof, making.aloof⟩
        living cached isMethod
      obtain ⟨value', world'⟩ := finding_of_aloof depth name
        ⟨wrapping.aloof', making.aloof'⟩ living' cached' (surfaces ▸ isMethod)
      have ready : (w.readied depth a duringWrap duringMake).Alike m
          (w'.readied depth a' duringWrap' duringMake') := alike.readied depth only wrapping making
      rw [value, value', world, world', (ready.callables only).minted]
      exact ⟨rfl, ready.makeCallable only same⟩
    · have found : outcome = ⟨none, [], w⟩ := findCallable_of_other living cached isMethod
      have found' : outcome' = ⟨none, [], w'⟩ :=
        findCallable_of_other living' cached' (surfaces ▸ isMethod)
      rw [found, found']
      exact ⟨rfl, alike⟩

/-- A name that is resolved in both runs is found in both or in none, and the numbers
that are found stand for callables that are the same. -/
theorem resolved_alike {outcome outcome' : Outcome σ V (Option Nat)}
    (finds : finding depth i name duringWrap duringMake w = outcome)
    (finds' : finding depth i name duringWrap' duringMake' w' = outcome') (alike : w.Alike m w')
    (living : w.livingAdapter? i = some a) (living' : w'.livingAdapter? i = some a')
    (same : a.shown m = a'.shown m) (wrapping : Program.Hooks m duringWrap duringWrap')
    (making : Program.Hooks m duringMake duringMake')
    (admits : m.Admits [⟨.resolved i name outcome.value, w, outcome.world, outcome.trace⟩]
      [⟨.resolved i name outcome'.value, w', outcome'.world, outcome'.trace⟩]) :
    outcome.world.Alike m outcome'.world ∧
      Option.Rel (fun n n' => m.Stands n n' ∧
        outcome.world.callable? n = outcome'.world.callable? n') outcome.value outcome'.value := by
  subst finds finds'
  cases m with
  | adapters =>
    obtain ⟨value, world⟩ := finding_alike depth name rfl alike living living'
      same wrapping making
    rw [value]
    refine ⟨world, ?_⟩
    cases (finding depth i name duringWrap' duringMake' w').value with
    | none => exact .none
    | some n => exact .some ⟨rfl, (world.callables rfl).callables n⟩
  | resolutions callable callable' =>
    have here := (throughout_cons.mp admits.1).1
    have here' := (throughout_cons.mp admits.2.1).1
    have surfaces : w.surface a.object = w'.surface a'.object := by
      rw [← show a.object = a'.object from congrArg (·.object) same]
      exact alike.surface a.object
    have found := found_of_isMethod depth name
      ⟨wrapping.aloof, making.aloof⟩ living here.bound here.methods
    have found' := found_of_isMethod depth name
      ⟨wrapping.aloof', making.aloof'⟩ living' here'.bound here'.methods
    refine ⟨alike.unseen (unseen_finding depth name rfl ⟨wrapping.aloof, making.aloof⟩ living)
      (unseen_finding depth name rfl ⟨wrapping.aloof', making.aloof'⟩ living'), ?_⟩
    rw [← surfaces] at found'
    split at found
    case isTrue isMethod =>
      rw [if_pos isMethod] at found'
      obtain ⟨n, value, callables⟩ := found
      obtain ⟨n', value', callables'⟩ := found'
      have kinds : a.callable name = a'.callable name := Adapter.callable_congr same name
      rw [value, value']
      have listed : callable n = some (a.callable name) := here.after n _ callables
      have listed' : callable' n' = some (a'.callable name) := here'.after n' _ callables'
      have stands : callable n = callable' n' := by rw [listed, listed', kinds]
      exact .some ⟨stands, by rw [callables, callables', kinds]⟩
    case isFalse other =>
      rw [if_neg other] at found'
      rw [found, found']
      exact .none

/-- Where resolutions may come and go, nothing is seen of a request for one whose
callable is not called, and nothing else happens. -/
theorem resolve_unseen (free : m.inserts = true) (aloof : duringWrap.Aloof ∧ duringMake.Aloof)
    (retain : Bool) (w : World σ V) :
    let outcome := resolveCallable (entryAt depth) i name retain none
      (performProgram (entryAt depth) duringWrap) (performProgram (entryAt depth) duringMake) w
    w.Unseen m outcome.world ∧ ∀ span ∈ outcome.trace, span.event.IsResolution := by
  intro outcome
  cases found : w.adapter? i with
  | none =>
    have nothing : outcome = ⟨.invalid, [], w⟩ := resolveCallable_of_none found
    rw [nothing]
    exact ⟨.refl m w, List.forall_mem_nil _⟩
  | some a =>
    generalize finds : finding depth i name duringWrap duringMake (w.enterAdapter i) = resolved
    have ended : w.Unseen m (resolved.world.leaveAdapter i) := by
      have unseen := unseen_finding depth name free aloof
        (World.livingAdapter?_enterAdapter_of_adapter? found)
      rw [finds] at unseen
      exact (w.unseen_enterAdapter i).trans (unseen.trans (World.unseen_leaveAdapter _ i))
    have resolves : outcome = _ := resolveCallable_of_findCallable found finds
    obtain ⟨value, trace, world⟩ := resolved
    cases value with
    | none =>
      rw [resolves]
      exact ⟨ended, List.forall_mem_singleton.mpr trivial⟩
    | some n =>
      simp only [useFunction_eq] at resolves
      rw [resolves]
      refine ⟨ended.trans ?_, List.forall_mem_singleton.mpr trivial⟩
      cases retain with
      | true =>
        exact ((World.touchesCallables_retain _ n).unseen free).trans
          (World.unseen_releaseFunction _ n)
      | false => exact World.unseen_releaseFunction _ n

/-- A name that is resolved in both runs is resolved alike, and so is what the engine
does with the callable. -/
theorem twinAt_resolve (runs : (entryAt depth : Entry σ V).RunsAlike m) (retain : Bool)
    (args : Option (List (Literal V))) (wrapping : Program.Hooks m duringWrap duringWrap')
    (making : Program.Hooks m duringMake duringMake') :
    (resolveCallable (entryAt depth) i name retain args (performProgram (entryAt depth) duringWrap)
      (performProgram (entryAt depth) duringMake)).TwinAt m (Answer.Alike m)
      (resolveCallable (entryAt depth) i name retain args
        (performProgram (entryAt depth) duringWrap') (performProgram (entryAt depth) duringMake'))
      w w' := by
  intro alike admits
  have adapters := alike.adapters i
  cases found : w.adapter? i with
  | none =>
    rw [found] at adapters
    have missing : w'.adapter? i = none := Option.map_eq_none_iff.mp adapters.symm
    rw [resolveCallable_of_none found, resolveCallable_of_none missing]
    exact ⟨.plain trivial, .nil, alike⟩
  | some a =>
    rw [found] at adapters
    obtain ⟨a', found', same⟩ := Option.map_eq_some_iff.mp adapters.symm
    generalize finds : finding depth i name duringWrap duringMake (w.enterAdapter i) = outcome
    generalize finds' : finding depth i name duringWrap' duringMake' (w'.enterAdapter i) = outcome'
    rw [resolveCallable_of_findCallable found finds, resolveCallable_of_findCallable found' finds']
      at admits ⊢
    have entered := alike.unseen (w.unseen_enterAdapter i) (w'.unseen_enterAdapter i)
    obtain ⟨value, trace, world⟩ := outcome
    obtain ⟨value', trace', world'⟩ := outcome'
    have ⟨ended, stands⟩ := resolved_alike depth name finds finds' entered
      (World.livingAdapter?_enterAdapter_of_adapter? found)
      (World.livingAdapter?_enterAdapter_of_adapter? found') same.symm wrapping making
      (by cases value <;> cases value' <;> exact admits.head)
    have left := ended.unseen (world.unseen_leaveAdapter i) (world'.unseen_leaveAdapter i)
    cases stands with
    | none => exact ⟨.plain trivial, .resolved i name .none entered ended .nil, left⟩
    | @some n n' stands =>
      have still (u : World σ V) (k : Nat) : (u.leaveAdapter i).callable? k = u.callable? k :=
        World.callable?_eq_of_keeps (.leaveAdapter u i) (u.length_functions_leaveAdapter i) k
      have resolved : TraceAlike m
          [⟨.resolved i name (some n), w.enterAdapter i, world, trace⟩]
          [⟨.resolved i name (some n'), w'.enterAdapter i, world', trace'⟩] :=
        .resolved i name (.some stands.1) entered ended .nil
      have used := twinAt_useFunction runs stands.1
        ((still world n).trans (stands.2.trans (still world' n').symm)) retain args left
        (admits.later resolved)
      exact ⟨used.value, resolved.append used.trace, used.world⟩

end

end Membrane
