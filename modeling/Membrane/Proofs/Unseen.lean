import Membrane.Proofs.Likeness
import Membrane.Proofs.Lifetimes

/-!
# Changes that no other run follows

Counting references and handles, and beginning and ending operations on adapters,
is nothing that a run beside has to follow: worlds that are alike stay alike if one
of them changes in such a way. Where resolutions may come and go, making and keeping
callables is of this kind too; where they may not, both runs make the same.
-/

namespace Membrane

variable {σ V : Type}

namespace World

variable {w v u : World σ V} {m : Leeway V}

/-! ## What stays -/

/-- A callable stays what it is while its function object does. -/
theorem callable?_of_keeps (keeps : w.KeepsFunctions v) {n : Nat} {f : FunctionObject V}
    (found : w.callable? n = some f) : v.callable? n = some f := by
  obtain ⟨g, before, rfl⟩ := Option.map_eq_some_iff.mp found
  obtain ⟨count, after⟩ := keeps n g before
  rw [callable?, after]
  rfl

theorem function?_eq_none_iff {n : Nat} :
    w.function? n = none ↔ n = 0 ∨ w.functions.length < n := by
  rw [function?]
  split
  · simp [*]
  · rw [List.getElem?_eq_none_iff]
    omega

/-- Where no function object is made, the callables are the same. -/
theorem callable?_eq_of_keeps (keeps : w.KeepsFunctions v)
    (minted : v.functions.length = w.functions.length) (n : Nat) :
    v.callable? n = w.callable? n := by
  cases found : w.callable? n with
  | some f => exact callable?_of_keeps keeps found
  | none =>
    have missing : w.function? n = none := Option.map_eq_none_iff.mp found
    rw [callable?, Option.map_eq_none_iff, function?_eq_none_iff, minted]
    exact function?_eq_none_iff.mp missing

@[simp] theorem classes_modifyFunction (w : World σ V) (n : Nat)
    (f : FunctionObject V → FunctionObject V) : (w.modifyFunction n f).classes = w.classes := by
  by_cases zero : n = 0 <;> simp [modifyFunction, zero]

@[simp] theorem classes_acquireFunction (w : World σ V) (n : Nat) :
    (w.acquireFunction n).classes = w.classes :=
  classes_modifyFunction w n _

@[simp] theorem classes_releaseFunction (w : World σ V) (n : Nat) :
    (w.releaseFunction n).classes = w.classes := by
  simp only [releaseFunction]
  cases w.function? n with
  | none => rfl
  | some f => by_cases last : f.references = 1 <;> simp [last, releaseHandle]

@[simp] theorem classes_settleAdapter (w : World σ V) (i : Nat) :
    (w.settleAdapter i).classes = w.classes :=
  settleAdapter_induction (R := fun w v => v.classes = w.classes) (fun _ => rfl)
    (fun first second => second.trans first) (fun _ _ => rfl) classes_releaseFunction
    (fun _ _ => rfl) w i

@[simp] theorem length_functions_settleAdapter (w : World σ V) (i : Nat) :
    (w.settleAdapter i).functions.length = w.functions.length :=
  settleAdapter_induction (R := fun w v => v.functions.length = w.functions.length)
    (fun _ => rfl) (fun first second => second.trans first) (fun _ _ => rfl)
    length_functions_releaseFunction (fun _ _ => rfl) w i

@[simp] theorem length_functions_leaveAdapter (w : World σ V) (i : Nat) :
    (w.leaveAdapter i).functions.length = w.functions.length :=
  length_functions_settleAdapter _ i

/-- Callables are found in the list of functions, and the engine keeps a list of
them. -/
theorem SameCallables.congr {w w' v v' : World σ V} (same : w.SameCallables w')
    (functions : v.functions = w.functions) (retained : v.retained = w.retained)
    (functions' : v'.functions = w'.functions) (retained' : v'.retained = w'.retained) :
    v.SameCallables v' where
  callables n := by
    rw [callable?, callable?, function?_congr functions, function?_congr functions']
    exact same.callables n
  minted := by rw [functions, functions', same.minted]
  retained := by rw [retained, retained', same.retained]

/-- Where function objects stay what they are and none is made, the callables stay
the same. -/
theorem SameCallables.kept {w w' v v' : World σ V} (same : w.SameCallables w')
    (keeps : w.KeepsFunctions v) (minted : v.functions.length = w.functions.length)
    (keeps' : w'.KeepsFunctions v') (minted' : v'.functions.length = w'.functions.length)
    (retained : v.retained = v'.retained) : v.SameCallables v' where
  callables n := by
    rw [callable?_eq_of_keeps keeps minted, callable?_eq_of_keeps keeps' minted', same.callables]
  minted := by rw [minted, minted', same.minted]
  retained := retained

theorem length_functions_retain (w : World σ V) (n : Nat) :
    (w.retain n).functions.length = w.functions.length := by
  rw [retain]
  split
  · rfl
  · exact length_functions_acquireFunction w n

theorem length_functions_release (w : World σ V) (n : Nat) :
    (w.release n).functions.length = w.functions.length := by
  rw [release]
  split
  · exact length_functions_releaseFunction _ n
  · rfl

theorem retained_retain (w : World σ V) (n : Nat) :
    (w.retain n).retained = if n ∈ w.retained then w.retained else n :: w.retained := by
  rw [retain]
  split <;> rfl

theorem retained_release (w : World σ V) (n : Nat) :
    (w.release n).retained = w.retained.erase n := by
  rw [release]
  split
  case isTrue kept => exact retained_releaseFunction _ n
  case isFalse unkept => exact (List.erase_of_not_mem unkept).symm

/-! ## Changes of one world -/

namespace Unseen

theorem refl (m : Leeway V) (w : World σ V) : w.Unseen m w where
  objects _ := rfl
  classes := rfl
  handles := rfl
  numbered := rfl
  adapters _ := rfl
  callables _ := ⟨fun _ => rfl, rfl, rfl⟩

theorem trans (first : w.Unseen m v) (second : v.Unseen m u) : w.Unseen m u where
  objects o := (second.objects o).trans (first.objects o)
  classes := second.classes.trans first.classes
  handles := second.handles.trans first.handles
  numbered := second.numbered.trans first.numbered
  adapters i := (second.adapters i).trans (first.adapters i)
  callables only := by
    have late := second.callables only
    have early := first.callables only
    exact ⟨fun n => (late.callables n).trans (early.callables n), late.minted.trans early.minted,
      late.retained.trans early.retained⟩

/-- Books that are kept are not seen, as far as no callable is kept or let go. -/
theorem of_tends (tends : w.Tends v) (classes : v.classes = w.classes)
    (adapters : ∀ i, (v.adapter? i).map (Adapter.shown m) = (w.adapter? i).map (Adapter.shown m))
    (minted : v.functions.length = w.functions.length) (retained : v.retained = w.retained) :
    w.Unseen m v where
  objects := tends.objects
  classes := classes
  handles := tends.handles
  numbered := tends.numbers
  adapters := adapters
  callables _ := ⟨callable?_eq_of_keeps tends.functions minted, minted, retained⟩

end Unseen

theorem adapter?_congr (same : v.adapters = w.adapters) (i : Nat) :
    v.adapter? i = w.adapter? i := by
  rw [adapter?, adapter?, livingAdapter?_congr same]

theorem unseen_acquireHandle (w : World σ V) (o : Nat) : w.Unseen m (w.acquireHandle o) :=
  .of_tends (tends_acquireHandle w o) rfl (fun _ => rfl) rfl rfl

theorem unseen_acquireFunction (w : World σ V) (n : Nat) : w.Unseen m (w.acquireFunction n) :=
  .of_tends (tends_acquireFunction w n) (classes_acquireFunction w n)
    (fun i => by rw [adapter?_congr (adapters_acquireFunction w n)])
    (length_functions_acquireFunction w n) (retained_modifyFunction w n _)

theorem unseen_releaseFunction (w : World σ V) (n : Nat) : w.Unseen m (w.releaseFunction n) :=
  .of_tends (tends_releaseFunction w n) (classes_releaseFunction w n)
    (fun i => by rw [adapter?_congr (adapters_releaseFunction w n)])
    (length_functions_releaseFunction w n) (retained_releaseFunction w n)

/-! ## Adapters -/

/-- A change of an adapter that leaves it its number. -/
theorem adapter?_modifyAdapter (w : World σ V) (i : Nat) {f : Adapter V → Adapter V}
    (named : ∀ a, (f a).named = a.named) (j : Nat) :
    (w.modifyAdapter i f).adapter? j = if j = i then (w.adapter? j).map f else w.adapter? j := by
  rw [adapter?, adapter?, livingAdapter?_modifyAdapter]
  by_cases same : j = i
  · rw [if_pos same, if_pos same]
    cases w.livingAdapter? j with
    | none => rfl
    | some a => cases still : a.named <;> simp [Option.filter, named, still]
  · rw [if_neg same, if_neg same]

/-- An adapter with a number is not settled away. -/
theorem adapter?_settleAdapter (w : World σ V) (i j : Nat) :
    (w.settleAdapter i).adapter? j = w.adapter? j := by
  rw [adapter?, adapter?, livingAdapter?_settleAdapter]
  by_cases same : j = i
  · rw [if_pos same]
    cases w.livingAdapter? j with
    | none => rfl
    | some a =>
      cases named : a.named with
      | true => simp [Option.filter, Adapter.isUsed, named]
      | false => cases used : a.isUsed <;> simp [Option.filter, used, named]
  · rw [if_neg same]

/-- An adapter whose number was taken away is found under none. -/
theorem adapter?_unname (w : World σ V) (i j : Nat) :
    (w.modifyAdapter i fun a => { a with named := false }).adapter? j =
      if j = i then none else w.adapter? j := by
  rw [adapter?, adapter?, livingAdapter?_modifyAdapter]
  by_cases same : j = i
  · rw [if_pos same, if_pos same]
    cases w.livingAdapter? j <;> simp [Option.filter]
  · rw [if_neg same, if_neg same]

/-- A change of an adapter in what is not the same in both runs anyway. -/
theorem unseen_modifyAdapter (w : World σ V) (i : Nat) {f : Adapter V → Adapter V}
    (named : ∀ a, (f a).named = a.named) (shown : ∀ a, (f a).shown m = a.shown m) :
    w.Unseen m (w.modifyAdapter i f) where
  objects _ := rfl
  classes := rfl
  handles := rfl
  numbered := w.length_adapters_modifyAdapter i f
  adapters j := by
    rw [w.adapter?_modifyAdapter i named]
    split
    · rw [Option.map_map]
      exact congrFun (congrArg Option.map (funext shown)) _
    · rfl
  callables _ := ⟨fun _ => rfl, rfl, rfl⟩

theorem unseen_settleAdapter (w : World σ V) (i : Nat) : w.Unseen m (w.settleAdapter i) where
  objects := w.object?_settleAdapter i
  classes := w.classes_settleAdapter i
  handles := w.handles_settleAdapter i
  numbered := w.length_adapters_settleAdapter i
  adapters j := by rw [adapter?_settleAdapter]
  callables _ :=
    ⟨callable?_eq_of_keeps (.settleAdapter w i) (w.length_functions_settleAdapter i),
      w.length_functions_settleAdapter i, w.retained_settleAdapter i⟩

theorem unseen_enterAdapter (w : World σ V) (i : Nat) : w.Unseen m (w.enterAdapter i) :=
  w.unseen_modifyAdapter i (fun _ => rfl) fun _ => rfl

theorem unseen_leaveAdapter (w : World σ V) (i : Nat) : w.Unseen m (w.leaveAdapter i) := by
  have counted : w.Unseen m (w.modifyAdapter i fun a => { a with running := a.running - 1 }) :=
    w.unseen_modifyAdapter i (fun _ => rfl) fun _ => rfl
  exact counted.trans (unseen_settleAdapter _ i)

/-! ## Callables where resolutions may come and go -/

theorem TouchesCallables.trans (first : w.TouchesCallables v) (second : v.TouchesCallables u) :
    w.TouchesCallables u where
  objects o := (second.objects o).trans (first.objects o)
  classes := second.classes.trans first.classes
  handles := second.handles.trans first.handles
  adapters := second.adapters.trans first.adapters

theorem touchesCallables_mint (w : World σ V) (binding : Binding) (trampoline : Trampoline)
    (codec : Codec V) : w.TouchesCallables (w.mint binding trampoline codec).2 :=
  ⟨fun _ => rfl, rfl, rfl, rfl⟩

theorem touchesCallables_retain (w : World σ V) (n : Nat) : w.TouchesCallables (w.retain n) where
  objects := object?_retain w n
  classes := by
    rw [retain]
    split
    · rfl
    · exact classes_acquireFunction w n
  handles := handles_retain w n
  adapters := adapters_retain w n

theorem touchesCallables_release (w : World σ V) (n : Nat) :
    w.TouchesCallables (w.release n) where
  objects := object?_release w n
  classes := by
    rw [release]
    split
    · exact classes_releaseFunction _ n
    · rfl
  handles := handles_release w n
  adapters := adapters_release w n

theorem TouchesCallables.unseen (touches : w.TouchesCallables v) (free : m.inserts = true) :
    w.Unseen m v where
  objects := touches.objects
  classes := touches.classes
  handles := touches.handles
  numbered := by rw [touches.adapters]
  adapters i := by rw [adapter?_congr touches.adapters]
  callables only := by
    rw [free] at only
    cases only

/-! ## Changes of both worlds -/

namespace Alike

variable {w w' v v' : World σ V}

/-- Worlds that are alike stay so when nothing changes that is seen. -/
theorem unseen (alike : w.Alike m w') (first : w.Unseen m v) (second : w'.Unseen m v') :
    v.Alike m v' where
  objects o := by
    rw [first.objects, second.objects]
    exact alike.objects o
  classes := by
    rw [first.classes, second.classes]
    exact alike.classes
  handles := by rw [first.handles, second.handles, alike.handles]
  numbered := by rw [first.numbered, second.numbered, alike.numbered]
  adapters i := by rw [first.adapters, second.adapters, alike.adapters]
  callables only := by
    have callables := alike.callables only
    have first := first.callables only
    have second := second.callables only
    exact ⟨fun n => by rw [first.callables, second.callables, callables.callables],
      by rw [first.minted, second.minted, callables.minted],
      by rw [first.retained, second.retained, callables.retained]⟩

/-- Both worlds make an object. -/
theorem allocate (alike : w.Alike m w') {object object' : HostObject σ (Request σ V) (Answer σ V)}
    (objects : object.Alike m object') :
    (w.allocate object).1 = (w'.allocate object').1 ∧
      (w.allocate object).2.Alike m (w'.allocate object').2 := by
  have lengths := alike.length_cells
  constructor
  · simp only [World.allocate, lengths, objects.surface]
  · refine { alike with
      objects := fun o => ?_, callables := fun only => (alike.callables only).congr rfl rfl rfl rfl }
    rw [object?_allocate_eq, object?_allocate_eq, lengths]
    split
    · exact .some objects
    · exact alike.objects o

/-- Both worlds change an object in the same way. -/
theorem modifyObject (alike : w.Alike m w') (o : Nat)
    {f f' : HostObject σ (Request σ V) (Answer σ V) → HostObject σ (Request σ V) (Answer σ V)}
    (changed : ∀ object object', object.Alike m object' → (f object).Alike m (f' object')) :
    (w.modifyObject o f).Alike m (w'.modifyObject o f') := by
  refine { alike with
    objects := fun i => ?_, callables := fun only => (alike.callables only).congr rfl rfl rfl rfl }
  rw [object?_modifyObject, object?_modifyObject]
  split
  · cases found : w.object? i with
    | none =>
      rw [alike.object?_none found]
      exact .none
    | some object =>
      obtain ⟨object', found', objects⟩ := alike.object? found
      rw [found']
      exact .some (changed object object' objects)
  · exact alike.objects i

/-- Both worlds know a class more. -/
theorem declare (alike : w.Alike m w') {c c' : HostClass σ (Request σ V) (Answer σ V)}
    (classes : c.Alike m c') :
    World.Alike m { w with classes := w.classes ++ [c] }
      { w' with classes := w'.classes ++ [c'] } := by
  refine { alike with
    classes := fun number => ?_
    callables := fun only => (alike.callables only).congr rfl rfl rfl rfl }
  rw [getElem?_concat, getElem?_concat, alike.length_classes]
  split
  · exact .some classes
  · exact alike.classes number

/-- Both worlds number a handle. -/
theorem addHandle (alike : w.Alike m w') (ref : ObjectRef) :
    (w.addHandle ref).1 = (w'.addHandle ref).1 ∧
      (w.addHandle ref).2.Alike m (w'.addHandle ref).2 := by
  have counted := alike.unseen (unseen_acquireHandle w ref.id) (unseen_acquireHandle w' ref.id)
  constructor
  · exact congrArg List.length alike.handles
  · exact { counted with
      handles := congrArg (· ++ [some ref]) alike.handles
      callables := fun only => (alike.callables only).congr rfl rfl rfl rfl }

/-- Both worlds make an object under a numbered handle. -/
theorem addObject (alike : w.Alike m w')
    {object object' : HostObject σ (Request σ V) (Answer σ V)} (objects : object.Alike m object') :
    (w.addObject object).1 = (w'.addObject object').1 ∧
      (w.addObject object).2.Alike m (w'.addObject object').2 := by
  obtain ⟨same, allocated⟩ := alike.allocate objects
  have second : w'.addObject object' = (w'.allocate object').2.addHandle (w.allocate object).1 := by
    rw [same]
    rfl
  rw [second]
  exact allocated.addHandle _

/-- Both worlds change an adapter, in the same way as far as it is the same. -/
theorem modifyAdapter (alike : w.Alike m w') (i : Nat) {f f' : Adapter V → Adapter V}
    (named : ∀ a, (f a).named = a.named) (named' : ∀ a, (f' a).named = a.named)
    (shown : ∀ a a', a.shown m = a'.shown m → (f a).shown m = (f' a').shown m) :
    (w.modifyAdapter i f).Alike m (w'.modifyAdapter i f') := by
  refine { alike with
    numbered := ?_, adapters := fun j => ?_
    callables := fun only => (alike.callables only).congr rfl rfl rfl rfl }
  · rw [length_adapters_modifyAdapter, length_adapters_modifyAdapter, alike.numbered]
  · have adapters := alike.adapters j
    rw [w.adapter?_modifyAdapter i named, w'.adapter?_modifyAdapter i named']
    split
    · have places := rel_of_map_eq adapters
      generalize w.adapter? j = place, w'.adapter? j = place' at places ⊢
      cases places with
      | none => rfl
      | some same => exact congrArg some (shown _ _ same)
    · exact adapters

/-- Both worlds wrap an object. -/
theorem addAdapter (alike : w.Alike m w') (a : Adapter V) :
    (w.addAdapter a).1 = (w'.addAdapter a).1 ∧
      (w.addAdapter a).2.Alike m (w'.addAdapter a).2 := by
  have counted :=
    alike.unseen (unseen_acquireHandle w a.object.id) (unseen_acquireHandle w' a.object.id)
  constructor
  · exact alike.numbered
  · refine { counted with
      numbered := ?_, adapters := fun i => ?_
      callables := fun only => (alike.callables only).congr rfl rfl rfl rfl }
    · rw [adapters_addAdapter, adapters_addAdapter, List.length_append, List.length_append,
        alike.numbered]
    · have adapters := alike.adapters i
      rw [adapter?, adapter?] at adapters ⊢
      rw [livingAdapter?_addAdapter, livingAdapter?_addAdapter, alike.numbered]
      split
      · rfl
      · exact adapters

/-- Both worlds drop an adapter. -/
theorem dropAdapter (alike : w.Alike m w') (i : Nat) :
    (w.dropAdapter i).Alike m (w'.dropAdapter i) := by
  have unnamed : (w.modifyAdapter i fun a => { a with named := false }).Alike m
      (w'.modifyAdapter i fun a => { a with named := false }) := by
    refine { alike with
      numbered := ?_, adapters := fun j => ?_
      callables := fun only => (alike.callables only).congr rfl rfl rfl rfl }
    · rw [length_adapters_modifyAdapter, length_adapters_modifyAdapter, alike.numbered]
    · have adapters := alike.adapters j
      rw [adapter?_unname, adapter?_unname]
      split
      · rfl
      · exact adapters
  exact unnamed.unseen (unseen_settleAdapter _ i) (unseen_settleAdapter _ i)

/-- Changes that concern callables only, where both worlds have the same callables
after them if they have to. -/
theorem touchCallables (alike : w.Alike m w') (first : w.TouchesCallables v)
    (second : w'.TouchesCallables v') (callables : m.inserts = false → v.SameCallables v') :
    v.Alike m v' where
  objects o := by
    rw [first.objects, second.objects]
    exact alike.objects o
  classes := by
    rw [first.classes, second.classes]
    exact alike.classes
  handles := by rw [first.handles, second.handles, alike.handles]
  numbered := by rw [first.adapters, second.adapters, alike.numbered]
  adapters i := by rw [adapter?_congr first.adapters, adapter?_congr second.adapters, alike.adapters]
  callables := callables

/-- In both runs the engine keeps a callable. -/
theorem retain (alike : w.Alike m w') {n n' : Nat} (stands : m.Stands n n') :
    (w.retain n).Alike m (w'.retain n') := by
  apply alike.touchCallables (w.touchesCallables_retain n) (w'.touchesCallables_retain n')
  intro only
  cases m with
  | resolutions => cases only
  | adapters =>
    cases stands
    have same := alike.callables only
    apply same.kept (.retain w n) (w.length_functions_retain n) (.retain w' n)
      (w'.length_functions_retain n)
    rw [retained_retain, retained_retain, same.retained]

/-- In both runs the engine lets go of a callable. -/
theorem release (alike : w.Alike m w') {n n' : Nat} (stands : m.Stands n n') :
    (w.release n).Alike m (w'.release n') := by
  apply alike.touchCallables (w.touchesCallables_release n) (w'.touchesCallables_release n')
  intro only
  cases m with
  | resolutions => cases only
  | adapters =>
    cases stands
    have same := alike.callables only
    apply same.kept (.release w n) (w.length_functions_release n) (.release w' n)
      (w'.length_functions_release n)
    rw [retained_release, retained_release, same.retained]

end Alike

end World

end Membrane
