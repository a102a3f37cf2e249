import Membrane.Bridge.Perform
import Membrane.Proofs.Calls
import Membrane.Proofs.Functions

/-!
# Programs and worlds that are alike

Two runs are looked at side by side. They start from programs and worlds that are
the same but for one liberty: either an access of the one goes through another
adapter in the other, or the one resolves methods that the other does not. Members,
replies and programs inside requests may differ in the same way, at any depth.

Where resolutions come and go, callables get other numbers. A number of the one run
and a number of the other stand for the same callable if they are bound to the same
object and name and called in the same way, or if there is none under either; two
programs that are alike go on alike after any answers that differ in such numbers,
and in counts of what is alive or cached.
-/

namespace Membrane

variable {σ V : Type}

/-! ## The liberty -/

/-- What a function object is for good, whoever refers to it. -/
def FunctionObject.lasting (f : FunctionObject V) : FunctionObject V :=
  { f with references := 0 }

/-- The callable under a number, whoever refers to it. -/
def World.callable? (w : World σ V) (function : Nat) : Option (FunctionObject V) :=
  (w.function? function).map .lasting

/-- In what two runs may differ. -/
inductive Leeway (V : Type) where
  /-- Accesses go through other adapters. -/
  | adapters
  /-- One run resolves methods where the other does not. The tables tell which
  callable a number of each of the runs stands for. -/
  | resolutions (callable callable' : Nat → Option (FunctionObject V))

namespace Leeway

/-- Whether one run may resolve methods where the other does not. -/
def inserts : Leeway V → Bool
  | adapters => false
  | resolutions .. => true

/-- An access through an adapter of the one run may go through an adapter of the
other. -/
def Swaps : Leeway V → Nat → Nat → Prop
  | adapters, _, _ => True
  | resolutions .., i, j => i = j

/-- A number of the one run and a number of the other stand for one callable. -/
def Stands : Leeway V → Nat → Nat → Prop
  | adapters, n, n' => n = n'
  | resolutions callable callable', n, n' => callable n = callable' n'

end Leeway

namespace World

/-- A change that concerns callables only. -/
structure TouchesCallables (w v : World σ V) : Prop where
  objects : ∀ o, v.object? o = w.object? o
  classes : v.classes = w.classes
  handles : v.handles = w.handles
  adapters : v.adapters = w.adapters

/-- Two worlds have the same callables, of which the engine keeps the same. -/
structure SameCallables (w w' : World σ V) : Prop where
  callables : ∀ n, w.callable? n = w'.callable? n
  minted : w.functions.length = w'.functions.length
  retained : w.retained = w'.retained

end World

/-! ## Hooks -/

/-- A program that touches no host object and no adapter, from whatever world. -/
def Program.Aloof (p : Routine σ V Unit) : Prop :=
  ∀ (depth : Nat) (w : World σ V), w.TouchesCallables (performProgram (entryAt depth) p w).world

/-- What the engine does while a callable is made touches no host object and no
adapter in either run. Where both runs have to have the same callables, it does the
same to them. -/
structure Program.Hooks (m : Leeway V) (p p' : Routine σ V Unit) : Prop where
  aloof : p.Aloof
  aloof' : p'.Aloof
  together : m.inserts = false → ∀ (depth : Nat) (w w' : World σ V), w.SameCallables w' →
    (performProgram (entryAt depth) p w).world.SameCallables
      (performProgram (entryAt depth) p' w').world

/-! ## Requests and answers -/

/-- What is known of a member before it runs. -/
def Selection.outline {Request Answer : Type} (selection : Selection σ Request Answer) :
    Slot × List Value :=
  (selection.slot, selection.args)

/-- Two classes show the same and find the same member for every call. -/
structure HostClass.Agrees (c c' : HostClass σ (Request σ V) (Answer σ V)) : Prop where
  surface : c.surface = c'.surface
  select : ∀ call, (c.select call).map Selection.outline = (c'.select call).map Selection.outline

/-- The programs by which the same member of two classes runs. -/
inductive HostClass.Pairs (c c' : HostClass σ (Request σ V) (Answer σ V)) :
    ∀ {α : Type}, Routine σ V α → Routine σ V α → Prop where
  | reads {call : HostCall} {slot : Slot} {args : List Value}
      {run run' : σ → List Value → Routine σ V (Except Fault Value)}
      (found : c.select call = .ok ⟨slot, .reads run, args⟩)
      (found' : c'.select call = .ok ⟨slot, .reads run', args⟩) (state : σ) :
      Pairs c c' (run state args) (run' state args)
  | writes {call : HostCall} {slot : Slot} {args : List Value}
      {run run' : σ → List Value → Routine σ V (σ × Except Fault Value)}
      (found : c.select call = .ok ⟨slot, .writes run, args⟩)
      (found' : c'.select call = .ok ⟨slot, .writes run', args⟩) (state : σ) :
      Pairs c c' (run state args) (run' state args)

namespace Request

/-- Requests that carry no program, name no function and make no access. -/
def IsPlain : Request σ V → Prop
  | ask _ | makeInstance .. | makeFilled .. | makeArray .. | inspect _ | describe .. | contents _
  | call .. | adapt .. | dropAdapter _ | inspectAdapter _ | setOptions .. => True
  | _ => False

/-- Two requests are the same within the liberty, apart from the programs that they
carry. -/
inductive Agrees (m : Leeway V) : Request σ V → Request σ V → Prop where
  | plain {r : Request σ V} (isPlain : r.IsPlain) : Agrees m r r
  | defineClass {c c' : HostClass σ (Request σ V) (Answer σ V)} (agrees : c.Agrees c') :
      Agrees m (.defineClass c) (.defineClass c')
  | makeHandwritten (surface : Surface)
      {replies replies' : HostCall → Option (Routine σ V (Except Fault Value))}
      (answered : ∀ call, (replies call).isSome = (replies' call).isSome) :
      Agrees m (.makeHandwritten surface replies) (.makeHandwritten surface replies')
  | hold (handle : Nat) (p p' : Routine σ V Unit) : Agrees m (.hold handle p) (.hold handle p')
  | access {i j : Nat} (swaps : m.Swaps i j) (operation : Access V) :
      Agrees m (.access i operation) (.access j operation)
  | resolve (i : Nat) (name : String) (retain : Bool) (args : Option (List (Literal V)))
      {duringWrap duringMake duringWrap' duringMake' : Routine σ V Unit}
      (wrapping : Program.Hooks m duringWrap duringWrap')
      (making : Program.Hooks m duringMake duringMake') :
      Agrees m (.resolve i name retain args duringWrap duringMake)
        (.resolve i name retain args duringWrap' duringMake')
  | callFunction {n n' : Nat} (stands : m.Stands n n') (args : List V) :
      Agrees m (.callFunction n args) (.callFunction n' args)
  | inspectFunction {n n' : Nat} (stands : m.Stands n n') :
      Agrees m (.inspectFunction n) (.inspectFunction n')
  | release {n n' : Nat} (stands : m.Stands n n') : Agrees m (.release n) (.release n')

/-- The programs that two requests carry at the same place. -/
inductive Pairs : Request σ V → Request σ V → ∀ {α : Type}, Routine σ V α → Routine σ V α → Prop
    where
  | member {c c' : HostClass σ (Request σ V) (Answer σ V)} {α : Type} {p p' : Routine σ V α}
      (pairs : c.Pairs c' p p') : Pairs (.defineClass c) (.defineClass c') p p'
  | reply {surface surface' : Surface} {call : HostCall}
      {replies replies' : HostCall → Option (Routine σ V (Except Fault Value))}
      {p p' : Routine σ V (Except Fault Value)} (chosen : replies call = some p)
      (chosen' : replies' call = some p') :
      Pairs (.makeHandwritten surface replies) (.makeHandwritten surface' replies') p p'
  | held (handle handle' : Nat) (p p' : Routine σ V Unit) :
      Pairs (.hold handle p) (.hold handle' p') p p'

end Request

namespace Answer

/-- Answers that tell neither a number of a function nor a count. -/
def IsPlain : Answer σ V → Prop
  | live _ | adapter _ | resolved .. | released .. => False
  | _ => True

/-- Two answers are the same up to numbers of callables and counts. What adapters
have cached is told alike where no run resolves what the other does not. -/
inductive Alike (m : Leeway V) : Answer σ V → Answer σ V → Prop where
  | plain {answer : Answer σ V} (isPlain : answer.IsPlain) : Alike m answer answer
  | live (count count' : Nat) : Alike m (.live count) (.live count')
  | adapter {info info' : AdapterInfo} (object : info.object = info'.object)
      (options : info.options = info'.options)
      (caches : m.inserts = false → info.cached = info'.cached ∧ info.minted = info'.minted) :
      Alike m (.adapter info) (.adapter info')
  | resolved {n n' : Nat} (stands : m.Stands n n') (result : Option (AccessResult V)) :
      Alike m (.resolved n result) (.resolved n' result)
  | released (wasRetained : Bool) (live live' : Nat) :
      Alike m (.released wasRetained live) (.released wasRetained live')

end Answer

/-! ## Programs -/

/-- Two programs do the same within the liberty: they make the same requests, which
carry programs that are alike, and go on alike after answers that are alike. Where
resolutions may come and go, either program may resolve a method on the way, with
hooks that touch no host object and no adapter; it does not call the callable, and
goes on whatever it is. -/
inductive Program.Alike (m : Leeway V) :
    ∀ {α : Type}, Routine σ V α → Routine σ V α → Prop where
  | done {α : Type} (result : α) : Alike m (.done result) (.done result)
  | fresh {α : Type} (template : Template) {next next' : ObjectRef → Routine σ V α}
      (each : ∀ ref, Alike m (next ref) (next' ref)) :
      Alike m (.fresh template next) (.fresh template next')
  | held {α : Type} (handle : Nat) {next next' : Option ObjectRef → Routine σ V α}
      (each : ∀ ref, Alike m (next ref) (next' ref)) :
      Alike m (.held handle next) (.held handle next')
  | room {α : Type} {next next' : Bool → Routine σ V α}
      (each : ∀ free, Alike m (next free) (next' free)) : Alike m (.room next) (.room next')
  | request {α : Type} {r r' : Request σ V} {next next' : Option (Answer σ V) → Routine σ V α}
      (agrees : r.Agrees m r')
      (inside : ∀ {β : Type} {q q' : Routine σ V β}, r.Pairs r' q q' → Alike m q q')
      (unanswered : Alike m (next none) (next' none))
      (answered : ∀ answer answer', answer.Alike m answer' →
        Alike m (next (some answer)) (next' (some answer'))) :
      Alike m (.request r next) (.request r' next')
  | inserted {α : Type} (free : m.inserts = true) (i : Nat) (name : String) (retain : Bool)
      {duringWrap duringMake : Routine σ V Unit} (aloof : duringWrap.Aloof ∧ duringMake.Aloof)
      {next : Option (Answer σ V) → Routine σ V α} {p' : Routine σ V α}
      (each : ∀ answer, Alike m (next answer) p') :
      Alike m (.request (.resolve i name retain none duringWrap duringMake) next) p'
  | deleted {α : Type} (free : m.inserts = true) (i : Nat) (name : String) (retain : Bool)
      {duringWrap duringMake : Routine σ V Unit} (aloof : duringWrap.Aloof ∧ duringMake.Aloof)
      {p : Routine σ V α} {next' : Option (Answer σ V) → Routine σ V α}
      (each : ∀ answer, Alike m p (next' answer)) :
      Alike m p (.request (.resolve i name retain none duringWrap duringMake) next')

/-! ## Worlds -/

/-- Two classes are alike if they agree and their members are. -/
structure HostClass.Alike (m : Leeway V) (c c' : HostClass σ (Request σ V) (Answer σ V)) :
    Prop where
  agrees : c.Agrees c'
  members : ∀ {α : Type} {p p' : Routine σ V α}, c.Pairs c' p p' → p.Alike m p'

/-- Two objects are alike if they are in the same state and what they run is
alike. -/
inductive HostObject.Alike (m : Leeway V) :
    HostObject σ (Request σ V) (Answer σ V) → HostObject σ (Request σ V) (Answer σ V) → Prop where
  | ofClass {c c' : HostClass σ (Request σ V) (Answer σ V)} (alike : c.Alike m c') (state : σ)
      (lease : Lease) : Alike m (.ofClass c state lease) (.ofClass c' state lease)
  | array (a : TypedArray) : Alike m (.array a) (.array a)
  | handwritten (surface : Surface)
      {replies replies' : HostCall → Option (Routine σ V (Except Fault Value))}
      (alike : ∀ call, Option.Rel (Program.Alike m) (replies call) (replies' call)) :
      Alike m (.handwritten surface replies) (.handwritten surface replies')

/-- What of an adapter is the same in both runs: all but the operations that run on
it, and its cache where resolutions may come and go. -/
def Adapter.shown (m : Leeway V) (a : Adapter V) : Adapter V :=
  { a with methods := if m.inserts then [] else a.methods, running := 0 }

namespace World

/-- Two worlds are alike if their objects are, pair by pair, and all else is the
same but for what counts references and handles, and but for caches and callables
where resolutions may come and go. -/
structure Alike (m : Leeway V) (w w' : World σ V) : Prop where
  objects : ∀ o, Option.Rel (HostObject.Alike m) (w.object? o) (w'.object? o)
  classes : ∀ number : Nat,
    Option.Rel (HostClass.Alike m) w.classes[number]? w'.classes[number]?
  handles : w.handles = w'.handles
  numbered : w.adapters.length = w'.adapters.length
  adapters : ∀ i, (w.adapter? i).map (Adapter.shown m) = (w'.adapter? i).map (Adapter.shown m)
  callables : m.inserts = false → w.SameCallables w'

/-- A change that no other run has to follow: objects stay, and so does all else
that worlds that are alike have in common. -/
structure Unseen (m : Leeway V) (w v : World σ V) : Prop where
  objects : ∀ o, v.object? o = w.object? o
  classes : v.classes = w.classes
  handles : v.handles = w.handles
  numbered : v.adapters.length = w.adapters.length
  adapters : ∀ i, (v.adapter? i).map (Adapter.shown m) = (w.adapter? i).map (Adapter.shown m)
  callables : m.inserts = false → v.SameCallables w

end World

/-! ## What is the same -/

namespace HostClass

variable {m : Leeway V} {c c' : HostClass σ (Request σ V) (Answer σ V)} {call : HostCall}

theorem Agrees.name (agrees : c.Agrees c') : c.name = c'.name :=
  congrArg (·.typeName) agrees.surface

theorem Agrees.select_error (agrees : c.Agrees c') {fault : Fault}
    (unserved : c.select call = .error fault) : c'.select call = .error fault := by
  have same := agrees.select call
  rw [unserved] at same
  cases selected : c'.select call with
  | error other =>
    rw [selected] at same
    cases same
    rfl
  | ok selection =>
    rw [selected] at same
    cases same

/-- Classes that agree find members for the same calls, in the same slot and with
the same arguments. -/
theorem Agrees.select_ok (agrees : c.Agrees c')
    {selection : Selection σ (Request σ V) (Answer σ V)}
    (selected : c.select call = .ok selection) :
    ∃ closure, c'.select call = .ok ⟨selection.slot, closure, selection.args⟩ := by
  have same := agrees.select call
  rw [selected] at same
  cases selected' : c'.select call with
  | error fault =>
    rw [selected'] at same
    cases same
  | ok selection' =>
    rw [selected'] at same
    have outlines : selection.outline = selection'.outline := Except.ok.inj same
    have slots : selection.slot = selection'.slot := congrArg Prod.fst outlines
    have args : selection.args = selection'.args := congrArg Prod.snd outlines
    exact ⟨selection'.closure, by rw [slots, args]⟩

/-- The same member of classes that agree reads in both or in none. -/
theorem Agrees.select_reads (agrees : c.Agrees c') {slot : Slot} {args : List Value}
    {run : σ → List Value → Routine σ V (Except Fault Value)}
    (selected : c.select call = .ok ⟨slot, .reads run, args⟩) :
    ∃ run', c'.select call = .ok ⟨slot, .reads run', args⟩ := by
  obtain ⟨closure, selected'⟩ := agrees.select_ok selected
  obtain ⟨run', same⟩ := (fits_of_select selected').mp ((fits_of_select selected).mpr ⟨run, rfl⟩)
  exact ⟨run', same ▸ selected'⟩

theorem Agrees.select_writes (agrees : c.Agrees c') {slot : Slot} {args : List Value}
    {run : σ → List Value → Routine σ V (σ × Except Fault Value)}
    (selected : c.select call = .ok ⟨slot, .writes run, args⟩) :
    ∃ run', c'.select call = .ok ⟨slot, .writes run', args⟩ := by
  obtain ⟨closure, selected'⟩ := agrees.select_ok selected
  cases closure with
  | writes run' => exact ⟨run', selected'⟩
  | reads run' =>
    have reads := (fits_of_select selected').mpr ⟨run', rfl⟩
    obtain ⟨_, other⟩ := (fits_of_select selected).mp reads
    cases other

end HostClass

/-- Objects that are alike show the same. -/
theorem HostObject.Alike.surface {m : Leeway V}
    {object object' : HostObject σ (Request σ V) (Answer σ V)} (alike : object.Alike m object') :
    object.surface = object'.surface := by
  cases alike with
  | ofClass alike state lease => exact alike.agrees.surface
  | array a => rfl
  | handwritten surface alike => rfl

namespace World

/-- What is related to an entry is an entry. -/
theorem exists_of_rel_some {α β : Type} {R : α → β → Prop} {a : α} {place : Option β}
    (related : Option.Rel R (some a) place) : ∃ b, place = some b ∧ R a b := by
  cases related with
  | some related => exact ⟨_, rfl, related⟩

theorem eq_none_of_rel_none {α β : Type} {R : α → β → Prop} {place : Option β}
    (related : Option.Rel R none place) : place = none := by
  cases related
  rfl

theorem isSome_eq_of_rel {α β : Type} {R : α → β → Prop} {place : Option α} {place' : Option β}
    (related : Option.Rel R place place') : place.isSome = place'.isSome := by
  cases related <;> rfl

theorem rel_of_isSome_eq {α β : Type} {R : α → β → Prop} {place : Option α} {place' : Option β}
    (same : place.isSome = place'.isSome)
    (each : ∀ {a b}, place = some a → place' = some b → R a b) : Option.Rel R place place' := by
  cases place with
  | none =>
    cases place' with
    | none => exact .none
    | some b => cases same
  | some a =>
    cases place' with
    | none => cases same
    | some b => exact .some (each rfl rfl)

/-- Where the same is taken from two entries, there are both or none. -/
theorem rel_of_map_eq {α β : Type} {f : α → β} {place place' : Option α}
    (same : place.map f = place'.map f) : Option.Rel (fun a a' => f a = f a') place place' := by
  apply rel_of_isSome_eq
  · simpa only [Option.isSome_map] using congrArg Option.isSome same
  · rintro a a' rfl rfl
    exact Option.some.inj same

/-- Lists with entries at the same places are of the same length. -/
theorem length_eq_of_rel {α : Type} {R : α → α → Prop} {entries entries' : List α}
    (related : ∀ i : Nat, Option.Rel R entries[i]? entries'[i]?) :
    entries.length = entries'.length := by
  apply Nat.le_antisymm
  · have last := related entries'.length
    rw [List.getElem?_eq_none (Nat.le_refl _)] at last
    rw [← List.getElem?_eq_none_iff]
    cases here : entries[entries'.length]? with
    | none => rfl
    | some entry =>
      rw [here] at last
      cases last
  · have last := related entries.length
    rw [List.getElem?_eq_none (Nat.le_refl _)] at last
    exact List.getElem?_eq_none_iff.mp (eq_none_of_rel_none last)

namespace Alike

variable {m : Leeway V} {w w' : World σ V}

theorem length_classes (alike : w.Alike m w') : w.classes.length = w'.classes.length :=
  length_eq_of_rel alike.classes

theorem length_cells (alike : w.Alike m w') : w.cells.length = w'.cells.length := by
  have places : ∀ i : Nat, Option.Rel (HostObject.Alike m)
      (w.cells.map (·.object))[i]? (w'.cells.map (·.object))[i]? := by
    intro i
    rw [List.getElem?_map, List.getElem?_map]
    exact alike.objects i
  have lengths := length_eq_of_rel places
  rwa [List.length_map, List.length_map] at lengths

theorem object? (alike : w.Alike m w') {o : Nat}
    {object : HostObject σ (Request σ V) (Answer σ V)} (found : w.object? o = some object) :
    ∃ object', w'.object? o = some object' ∧ object.Alike m object' :=
  exists_of_rel_some (found ▸ alike.objects o)

theorem object?_none (alike : w.Alike m w') {o : Nat} (missing : w.object? o = none) :
    w'.object? o = none :=
  eq_none_of_rel_none (missing ▸ alike.objects o)

theorem surface (alike : w.Alike m w') (ref : ObjectRef) : w.surface ref = w'.surface ref := by
  rw [World.surface, World.surface]
  cases found : w.object? ref.id with
  | none => rw [alike.object?_none found]
  | some object =>
    obtain ⟨object', found', objects⟩ := alike.object? found
    rw [found']
    exact objects.surface

/-- What can be seen of an object is the same in worlds that are alike. -/
theorem contents? (alike : w.Alike m w') (ref : ObjectRef) :
    w.contents? ref = w'.contents? ref := by
  rw [World.contents?, World.contents?]
  cases found : w.object? ref.id with
  | none => rw [alike.object?_none found]
  | some object =>
    obtain ⟨object', found', objects⟩ := alike.object? found
    rw [found']
    cases objects <;> rfl

/-- A call that an object refuses is refused in the same way in the other world. -/
theorem refusal? (alike : w.Alike m w') {ref : ObjectRef} {call : HostCall} {fault : Fault}
    (refused : w.refusal? ref call = some fault) : w'.refusal? ref call = some fault := by
  rw [World.refusal?] at refused ⊢
  cases found : w.object? ref.id with
  | none => rwa [alike.object?_none found, ← found]
  | some object =>
    obtain ⟨object', found', objects⟩ := alike.object? found
    rw [found] at refused
    rw [found']
    cases objects with
    | array a => exact refused
    | handwritten surface answered =>
      dsimp only at refused ⊢
      rwa [← isSome_eq_of_rel (answered call)]
    | @ofClass c c' alike state lease =>
      dsimp only at refused ⊢
      rw [← alike.agrees.name]
      cases selected : c.select call with
      | error other =>
        rw [selected] at refused
        rwa [alike.agrees.select_error selected]
      | ok selection =>
        rw [selected] at refused
        obtain ⟨slot, closure, args⟩ := selection
        cases closure with
        | reads run =>
          obtain ⟨run', selected'⟩ := alike.agrees.select_reads selected
          rwa [selected']
        | writes run =>
          obtain ⟨run', selected'⟩ := alike.agrees.select_writes selected
          rwa [selected']

end Alike

end World

end Membrane
