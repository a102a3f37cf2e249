import Membrane.Proofs.ResolvedAlike

/-!
# Programs that are alike run alike

Requests that agree are performed alike if the programs that they carry run alike.
What a program does follows by induction on how deeply members re-enter, and inside
it on what makes two programs alike. A resolution that stands in one of them alone is
passed over.
-/

namespace Membrane

variable {σ V α : Type} {m : Leeway V} {depth : Nat}

/-! ## Requests that are the same in both runs -/

section Plain

variable {entry : Entry σ V}

theorem twin_makeInstance (number : Nat) (state : σ) :
    (perform entry (.makeInstance number state)).Twin m (Answer.Alike m)
      (perform entry (.makeInstance number state)) := by
  have found : (Act.look (·.classes[number]?) : Act σ V _).Twin m (Option.Rel (HostClass.Alike m))
      (.look (·.classes[number]?)) := .look fun w w' alike => alike.classes number
  apply found.bind
  intro c c' classes
  cases classes with
  | none => exact .pure (.plain trivial)
  | some classes => exact twin_makeObject (.ofClass classes state .free)

theorem twin_makeArray (element : ValueType) (values : List Value) :
    (perform entry (.makeArray element values)).Twin m (Answer.Alike m)
      (perform entry (.makeArray element values)) := by
  rw [perform]
  cases TypedArray.ofValues element values with
  | error fault => exact .pure (.plain trivial)
  | ok a => exact twin_makeObject (.array a)

theorem twin_inspect (handle : Nat) :
    (perform entry (.inspect handle)).Twin m (Answer.Alike m) (perform entry (.inspect handle)) := by
  apply twin_withHandle
  intro ref
  apply Act.Twin.bind_eq (.look fun _ _ alike => alike.surface ref)
  intro surface
  exact .pure (.plain trivial)

theorem twin_describe (handle : Nat) (name : String) :
    (perform entry (.describe handle name)).Twin m (Answer.Alike m)
      (perform entry (.describe handle name)) := by
  apply twin_withHandle
  intro ref
  apply Act.Twin.bind_eq (.look fun _ _ alike => alike.surface ref)
  intro surface
  exact .pure (.plain trivial)

theorem twin_contents (handle : Nat) :
    (perform entry (.contents handle)).Twin m (Answer.Alike m)
      (perform entry (.contents handle)) := by
  apply twin_withHandle
  intro ref
  apply Act.Twin.bind_eq (.look fun _ _ alike => alike.contents? ref)
  rintro (_ | contents)
  · exact .pure (.plain trivial)
  · exact .pure (.plain trivial)

theorem twin_callHandle (runs : entry.RunsAlike m) (handle : Nat) (call : HostCall) :
    (perform entry (.call handle call)).Twin m (Answer.Alike m)
      (perform entry (.call handle call)) := by
  apply twin_withHandle
  intro ref
  apply (twin_callObject runs ref call).bind_eq
  intro outcome
  exact .pure (.plain trivial)

/-- How many callables are alive afterwards is not the same: an adapter that is
dropped while an access runs on it lets go of its callables when the access ends. -/
theorem twin_dropAdapter (i : Nat) :
    (perform entry (.dropAdapter i)).Twin m (Answer.Alike m) (perform entry (.dropAdapter i)) := by
  apply twin_withAdapter
  intro a a' _
  apply Act.Twin.update_bind
  · exact fun w w' alike => alike.dropAdapter i
  · apply Act.Twin.look_bind
    intro count count'
    exact .pure (.live count count')

theorem twin_inspectAdapter (i : Nat) :
    (perform entry (.inspectAdapter i)).Twin m (Answer.Alike m)
      (perform entry (.inspectAdapter i)) := by
  apply twin_withAdapter
  intro a a' same
  have minted : (Act.look (·.functions.length) : Act σ V Nat).Twin m
      (fun minted minted' => m.inserts = false → minted = minted') (.look (·.functions.length)) :=
    .look fun _ _ alike only => (alike.callables only).minted
  apply minted.bind
  intro minted minted' numbers
  apply Act.Twin.look_bind
  intro live live'
  refine .pure (.adapter (congrArg (·.object) same) (congrArg (·.options) same) fun only => ?_)
  exact ⟨congrArg List.length (Adapter.methods_congr only same), numbers only⟩

theorem twin_setOptions (i : Nat) (options : Options) :
    (perform entry (.setOptions i options)).Twin m (Answer.Alike m)
      (perform entry (.setOptions i options)) := by
  apply twin_withAdapter
  intro a a' _
  apply Act.Twin.update_bind
  · intro w w' alike
    apply alike.modifyAdapter i
    · exact fun _ => rfl
    · exact fun _ => rfl
    · exact fun a a' same => congrArg (fun a : Adapter V => { a with options := options }) same
  · exact .pure (.plain trivial)

theorem twin_plain (runs : entry.RunsAlike m) {r : Request σ V} (isPlain : r.IsPlain) :
    (perform entry r).Twin m (Answer.Alike m) (perform entry r) := by
  cases r with
  | ask query => exact .pure (.plain trivial)
  | makeInstance number state => exact twin_makeInstance number state
  | makeFilled element length => exact twin_makeObject (.array _)
  | makeArray element values => exact twin_makeArray element values
  | inspect handle => exact twin_inspect handle
  | describe handle name => exact twin_describe handle name
  | contents handle => exact twin_contents handle
  | call handle call => exact twin_callHandle runs handle call
  | adapt handle codec text reject trampoline => exact twin_adapt handle codec text reject trampoline
  | dropAdapter i => exact twin_dropAdapter i
  | inspectAdapter i => exact twin_inspectAdapter i
  | setOptions i options => exact twin_setOptions i options
  | _ => exact isPlain.elim

end Plain

/-! ## Accesses -/

section Accesses

variable {entry : Entry σ V} {w w' : World σ V} {i j : Nat}

theorem World.Alike.face? (alike : w.Alike m w') (i : Nat) : w.face? i = w'.face? i := by
  have faces (u : World σ V) : u.face? i =
      ((u.adapter? i).map (Adapter.shown m)).map fun a => (a.object, a.codec, a.options) := by
    rw [Option.map_map]
    rfl
  rw [faces w, faces w', alike.adapters]

/-- The adapters of an access in both runs have the same face. -/
theorem Leeway.Admits.face? {operation : Access V} {answer answer' : Answer σ V}
    {v v' : World σ V} {t t' : List (Span σ V)}
    (admits : m.Admits [⟨.performed (.access i operation) answer, w, v, t⟩]
      [⟨.performed (.access j operation) answer', w', v', t'⟩]) (swaps : m.Swaps i j)
    (alike : w.Alike m w') : w.face? i = w'.face? j := by
  cases m with
  | adapters =>
    have meets : w.face? i = w.face? j := by
      apply admits ((w, i), (w', j))
      exact List.mem_cons_self
    exact meets.trans (alike.face? j)
  | resolutions =>
    cases swaps
    exact alike.face? i

/-- An access depends on an adapter only through its face. -/
theorem Adapter.perform_congr {a a' : Adapter V} (object : a.object = a'.object)
    (codec : a.codec = a'.codec) (options : a.options = a'.options) (entry : Entry σ V)
    (operation : Access V) : a.perform entry operation = a'.perform entry operation := by
  obtain ⟨object, codec, options, trampoline, methods, running, named⟩ := a
  obtain ⟨object', codec', options', trampoline', methods', running', named'⟩ := a'
  cases object
  cases codec
  cases options
  cases operation <;> rfl

/-- An access through adapters of the same face, whatever either has cached. -/
theorem twinAt_access (runs : entry.RunsAlike m) (faces : w.face? i = w'.face? j)
    (operation : Access V) :
    (perform entry (.access i operation)).TwinAt m (Answer.Alike m)
      (perform entry (.access j operation)) w w' := by
  apply Act.TwinAt.look_bind
  have adapters := World.rel_of_map_eq faces
  generalize w.adapter? i = place, w'.adapter? j = place' at adapters ⊢
  cases adapters with
  | none => exact Act.Twin.pure (.plain trivial) w w'
  | @some a a' same =>
    rw [Prod.mk.injEq, Prod.mk.injEq] at same
    obtain ⟨object, codec, options⟩ := same
    dsimp only
    rw [← Adapter.perform_congr object codec options]
    have used := twin_whileUsing i j ((twin_callClosed runs).access a operation)
    apply used.bind_eq
    intro result
    exact .pure (.plain trivial)

end Accesses

/-! ## Requests that carry programs -/

section Carrying

variable {entry : Entry σ V}

theorem twin_defineClass {c c' : HostClass σ (Request σ V) (Answer σ V)} (classes : c.Alike m c') :
    (perform entry (.defineClass c)).Twin m (Answer.Alike m) (perform entry (.defineClass c')) := by
  apply Act.Twin.bind_eq
    (.change fun _ _ alike => ⟨alike.length_classes, alike.declare classes⟩)
  intro number
  rw [classes.agrees.name]
  exact .pure (.plain trivial)

theorem twin_hold {q q' : Routine σ V Unit} (handle : Nat)
    (inside : (q.run (some (perform entry))).Twin m Eq (q'.run (some (perform entry)))) :
    (perform entry (.hold handle q)).Twin m (Answer.Alike m) (perform entry (.hold handle q')) := by
  rw [perform, perform, performProgram_eq_run, performProgram_eq_run]
  exact twin_holdState handle inside

end Carrying

section Release

variable {w w' : World σ V} {n n' : Nat} {entry : Entry σ V}

theorem twinAt_release (stands : m.Stands n n') (kept : n ∈ w.retained ↔ n' ∈ w'.retained) :
    (perform entry (.release n)).TwinAt m (Answer.Alike m) (perform entry (.release n')) w w' := by
  apply Act.TwinAt.look_bind
  rw [show decide (n ∈ w.retained) = decide (n' ∈ w'.retained) from decide_eq_decide.mpr kept]
  apply Act.Twin.update_bind
  · exact fun w w' alike => alike.release stands
  · apply Act.Twin.look_bind
    intro live live'
    exact .pure (.released _ live live')

end Release

/-! ## Numbers of callables alive -/

section Counts

variable {entry : Entry σ V}

theorem tells_pure {answer : Answer σ V} (silent : answer.live? = none) :
    (Act.pure answer : Act σ V _).Tells := by
  intro w count told
  rw [show (Act.pure answer w).value = answer from rfl, silent] at told
  cases told

theorem Act.Tells.after {act : Act σ V α} {next : α → Act σ V (Answer σ V)}
    (each : ∀ a, (next a).Tells) : (act >>= next).Tells :=
  fun w count told => each (act w).value (act w).world count told

theorem tells_makeObject (object : HostObject σ (Request σ V) (Answer σ V)) :
    (makeObject object).Tells :=
  .after fun _ => tells_pure rfl

theorem tells_withHandle {act : ObjectRef → Act σ V (Answer σ V)} (handle : Nat)
    (each : ∀ ref, (act ref).Tells) : (withHandle handle act).Tells := by
  apply Act.Tells.after
  rintro (_ | ref)
  · exact tells_pure rfl
  · exact each ref

theorem tells_withAdapter {act : Adapter V → Act σ V (Answer σ V)} (i : Nat)
    (each : ∀ a, (act a).Tells) : (withAdapter i act).Tells := by
  apply Act.Tells.after
  rintro (_ | a)
  · exact tells_pure rfl
  · exact each a

theorem tells_withRetained {act : FunctionObject V → Act σ V (Answer σ V)} (n : Nat)
    (each : ∀ f, (act f).Tells) : (withRetained n act).Tells := by
  apply Act.Tells.after
  rintro (_ | f)
  · exact tells_pure rfl
  · exact each f

theorem tells_useFunction (n : Nat) (retain : Bool) (args : Option (List (Literal V))) :
    (useFunction entry n retain args).Tells := by
  intro w count told
  rw [useFunction_eq] at told
  cases told

/-- A request that answers how many callables are alive tells those of the world that
it leaves. -/
theorem perform_tells (r : Request σ V) : (perform entry r).Tells := by
  cases r with
  | ask query => exact tells_pure rfl
  | defineClass c => exact .after fun _ => tells_pure rfl
  | makeInstance number state =>
    apply Act.Tells.after
    rintro (_ | c)
    · exact tells_pure rfl
    · exact tells_makeObject _
  | makeFilled element length => exact tells_makeObject _
  | makeArray element values =>
    rw [perform]
    cases TypedArray.ofValues element values with
    | error fault => exact tells_pure rfl
    | ok a => exact tells_makeObject _
  | makeHandwritten surface replies => exact tells_makeObject _
  | inspect handle => exact tells_withHandle handle fun _ => .after fun _ => tells_pure rfl
  | describe handle name => exact tells_withHandle handle fun _ => .after fun _ => tells_pure rfl
  | contents handle =>
    apply tells_withHandle
    intro ref
    apply Act.Tells.after
    rintro (_ | contents) <;> exact tells_pure rfl
  | call handle call => exact tells_withHandle handle fun _ => .after fun _ => tells_pure rfl
  | hold handle q =>
    apply tells_withHandle
    intro ref
    apply Act.Tells.after
    rintro (_ | _) <;> exact tells_pure rfl
  | adapt handle codec text reject trampoline =>
    apply tells_withHandle
    intro ref
    cases adapterOptions text reject with
    | error error => exact tells_pure rfl
    | ok options => exact .after fun _ => tells_pure rfl
  | dropAdapter i =>
    exact tells_withAdapter i fun _ => .after fun _ _ _ told => (Option.some.inj told).symm
  | inspectAdapter i =>
    exact tells_withAdapter i fun _ => .after fun _ _ _ told => (Option.some.inj told).symm
  | setOptions i options => exact tells_withAdapter i fun _ => .after fun _ => tells_pure rfl
  | access i operation => exact tells_withAdapter i fun _ => .after fun _ => tells_pure rfl
  | resolve i name retain args duringWrap duringMake =>
    apply tells_withAdapter
    intro a
    apply Act.Tells.after
    rintro (_ | n)
    · exact tells_pure rfl
    · exact tells_useFunction n retain args
  | callFunction n args =>
    exact tells_withRetained n fun _ => .after fun _ => .after fun _ => .after fun _ =>
      tells_pure rfl
  | inspectFunction n => exact tells_withRetained n fun _ => tells_pure rfl
  | release n => exact .after fun _ => .after fun _ _ _ told => (Option.some.inj told).symm

end Counts

/-! ## Requests -/

/-- Requests that agree are performed alike, if what they carry is alike and runs
alike. -/
theorem twin_request (runs : (entryAt depth : Entry σ V).RunsAlike m) {r r' : Request σ V}
    (agrees : r.Agrees m r')
    (carried : ∀ {β : Type} {q q' : Routine σ V β}, r.Pairs r' q q' → q.Alike m q')
    (inside : ∀ {β : Type} {q q' : Routine σ V β}, r.Pairs r' q q' →
      (q.run (some (perform (entryAt depth)))).Twin m Eq
        (q'.run (some (perform (entryAt depth))))) :
    ((perform (entryAt depth) r).within (.performed r)).Twin m (Answer.Alike m)
      ((perform (entryAt depth) r').within (.performed r')) := by
  intro w w' alike
  refine Act.TwinAt.performed agrees (perform_tells r) (perform_tells r') (fun admits => ?_) alike
  cases agrees with
  | plain isPlain => exact twin_plain runs isPlain w w'
  | defineClass agrees => exact twin_defineClass ⟨agrees, fun pairs => carried (.member pairs)⟩ w w'
  | makeHandwritten surface answered =>
    refine twin_makeObject (.handwritten surface fun call => ?_) w w'
    exact World.rel_of_isSome_eq (answered call) fun chosen chosen' => carried (.reply chosen chosen')
  | hold handle q q' => exact twin_hold handle (inside (.held handle handle q q')) w w'
  | access swaps operation => exact twinAt_access runs (admits.face? swaps alike) operation
  | resolve i name retain args wrapping making =>
    exact twinAt_resolve depth name runs retain args wrapping making
  | callFunction stands args =>
    exact twinAt_callRetained runs (admits.usedAlike alike stands rfl rfl) args
  | inspectFunction stands =>
    refine twinAt_withRetained (admits.usedAlike alike stands rfl rfl) fun f f' kinds => ?_
    rw [show f.binding = f'.binding from congrArg (·.binding) kinds]
    exact .pure (.plain trivial)
  | release stands => exact twinAt_release stands (admits.usedAlike alike stands rfl rfl).kept

/-! ## Programs -/

section Apart

variable {act : Act σ V (Answer σ V)} {r : Request σ V} {next : Answer σ V → Act σ V α}
  {other : Act σ V α} {w w' : World σ V}

/-- A request that only resolves uses no function object. -/
theorem names_of_resolves {span : Span σ V} {answer : Answer σ V}
    (performs : span.event = .performed r answer) (resolves : r.resolution? ≠ none)
    (only : ∀ inside ∈ span.inner, inside.event.IsResolution) :
    span.gather (Span.names Request.function?) = [] :=
  Span.gather_of_resolves performs ((naming_function .adapters).silent performs resolves) only

/-- A request that is not seen may stand in the first run alone. -/
theorem Act.TwinAt.inserted {R : α → α → Prop} (free : m.inserts = true)
    (resolves : r.resolution? ≠ none) (unseen : w.Unseen m (act w).world)
    (only : ∀ span ∈ (act w).trace, span.event.IsResolution)
    (later : (next (act w).value).TwinAt m R other (act w).world w') :
    (act.within (.performed r) >>= next).TwinAt m R other w w' := by
  intro alike admits
  have rest := later (alike.unseen unseen (.refl m w'))
    (admits.skip free (names_of_resolves rfl resolves only))
  exact ⟨rest.value, .inserted free resolves unseen only rest.trace, rest.world⟩

/-- A request that is not seen may stand in the second run alone. -/
theorem Act.TwinAt.deleted {R : α → α → Prop} (free : m.inserts = true)
    (resolves : r.resolution? ≠ none) (unseen : w'.Unseen m (act w').world)
    (only : ∀ span ∈ (act w').trace, span.event.IsResolution)
    (later : other.TwinAt m R (next (act w').value) w (act w').world) :
    other.TwinAt m R (act.within (.performed r) >>= next) w w' := by
  intro alike admits
  have rest := later (alike.unseen (.refl m w) unseen)
    (admits.skip' free (names_of_resolves rfl resolves only))
  exact ⟨rest.value, .deleted free resolves unseen only rest.trace, rest.world⟩

end Apart

/-- Where requests are not answered, programs that are alike run alike. -/
theorem none_runsAlike : Entry.RunsAlike (none : Entry σ V) m := by
  intro α p p' alike
  induction alike with
  | done result => exact .pure rfl
  | fresh template each ih =>
    apply (twin_allocate template).bind_eq
    intro ref
    exact ih ref
  | held handle each ih =>
    apply (twin_handle? handle).bind_eq
    intro ref
    exact ih ref
  | room each ih => exact ih false
  | request agrees inside unanswered answered ih₁ ih₂ ih₃ => exact ih₂
  | inserted free i name retain aloof each ih => exact ih none
  | deleted free i name retain aloof each ih => exact ih none

/-- Where requests are performed, programs that are alike run alike if the programs of
members do. -/
theorem some_runsAlike (runs : (entryAt depth : Entry σ V).RunsAlike m) :
    Entry.RunsAlike (some (perform (entryAt depth)) : Entry σ V) m := by
  intro α p p' alike
  induction alike with
  | done result => exact .pure rfl
  | fresh template each ih =>
    apply (twin_allocate template).bind_eq
    intro ref
    exact ih ref
  | held handle each ih =>
    apply (twin_handle? handle).bind_eq
    intro ref
    exact ih ref
  | room each ih => exact ih true
  | request agrees inside unanswered answered inside_ih _ answered_ih =>
    exact (twin_request runs agrees inside inside_ih).bind answered_ih
  | inserted free i name retain aloof each ih =>
    intro w w'
    obtain ⟨unseen, only⟩ := resolve_unseen depth name free aloof retain w
    refine Act.TwinAt.inserted free ?_ unseen only (ih _ _ _)
    exact Option.some_ne_none _
  | deleted free i name retain aloof each ih =>
    intro w w'
    obtain ⟨unseen, only⟩ := resolve_unseen depth name free aloof retain w'
    refine Act.TwinAt.deleted free ?_ unseen only (ih _ _ _)
    exact Option.some_ne_none _

/-- Programs that are alike run alike, however deeply members re-enter. -/
theorem entryAt_runsAlike (depth : Nat) : (entryAt depth : Entry σ V).RunsAlike m := by
  induction depth with
  | zero => exact none_runsAlike
  | succ depth ih => exact some_runsAlike ih

/-- Runs from the outside of programs that are alike are alike. -/
theorem performProgram_twin (depth : Nat) {p p' : Routine σ V Unit} (alike : p.Alike m p') :
    (performProgram (entryAt depth) p).Twin m Eq (performProgram (entryAt depth) p') := by
  rw [performProgram_eq_run, performProgram_eq_run]
  exact some_runsAlike (entryAt_runsAlike depth) alike

end Membrane
