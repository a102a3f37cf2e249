import Membrane.Bridge.Request

/-!
# The world of a bridge

All objects ever made, the numbered handles on them, the classes, the adapters
and the function objects of the engine. Nothing is ever removed from these
lists, so numbers stay valid; a dropped handle and an adapter that is torn down
leave an empty place.

A handle is owned by a numbered place, by an adapter or by a function object,
and the object counts its handles; every owner acquires one and releases one.
References inside values own nothing.

An adapter lives while its number names it or an operation runs on it. Dropping
it takes the number away; an operation that runs on it still ends on a living
adapter, and the last to end tears it down.
-/

namespace Membrane

variable {σ V : Type}

/-- A host object in the world, with the number of handles that own it. -/
structure Cell (σ V : Type) where
  object : HostObject σ (Request σ V) (Answer σ V)
  handles : Nat

/-- An adapter: the object it wraps, its codec, its options, the trampoline of
its callables, and the callables found so far. -/
structure Adapter (V : Type) where
  object : ObjectRef
  codec : Codec V
  options : Options
  trampoline : Trampoline
  methods : List (String × Nat) := []
  /-- Whether the adapter's number still names it. -/
  named : Bool := true
  /-- How many operations run on the adapter. -/
  running : Nat := 0

namespace Adapter

/-- The callable that an adapter has cached for a name. -/
def cached? (a : Adapter V) (name : String) : Option Nat :=
  a.methods.lookup name

/-- Whether anything keeps an adapter alive. -/
def isUsed (a : Adapter V) : Bool :=
  a.named || 0 < a.running

end Adapter

/-- The state of a bridge. -/
structure World (σ V : Type) where
  cells : List (Cell σ V)
  handles : List (Option ObjectRef)
  classes : List (HostClass σ (Request σ V) (Answer σ V))
  adapters : List (Option (Adapter V))
  functions : List (FunctionObject V)
  retained : List Nat

namespace World

/-- Nothing exists yet. -/
def empty : World σ V :=
  ⟨[], [], [], [], [], []⟩

/-- The object with an identity. -/
def object? (w : World σ V) (id : Nat) : Option (HostObject σ (Request σ V) (Answer σ V)) :=
  w.cells[id]?.map (·.object)

/-- The object of a numbered handle, unless the handle was dropped. -/
def handle? (w : World σ V) (handle : Nat) : Option ObjectRef :=
  w.handles[handle]?.join

/-- The first handle of an object, the number by which it is known. -/
def numberOf? (w : World σ V) (ref : ObjectRef) : Option Nat :=
  w.handles.findIdx? fun place => place.any ref.same

/-- An adapter that was not torn down. -/
def livingAdapter? (w : World σ V) (adapter : Nat) : Option (Adapter V) :=
  w.adapters[adapter]?.join

/-- An adapter that was not dropped. -/
def adapter? (w : World σ V) (adapter : Nat) : Option (Adapter V) :=
  (w.livingAdapter? adapter).filter (·.named)

/-- A function object by its number; the engine counts from one. -/
def function? (w : World σ V) (function : Nat) : Option (FunctionObject V) :=
  if function = 0 then none else w.functions[function - 1]?

/-- The number of function objects that something refers to. -/
def liveFunctions (w : World σ V) : Nat :=
  w.functions.countP (0 < ·.references)

/-- The number of handles that own an object. Values that refer to an object own
nothing here: as long as none of them is kept anywhere, these are all handles that
there are. -/
def handleCount (w : World σ V) (id : Nat) : Nat :=
  match w.cells[id]? with
  | some cell => cell.handles
  | none => 0

/-- Adds an object, which no handle owns yet. -/
def allocate (w : World σ V) (object : HostObject σ (Request σ V) (Answer σ V)) :
    ObjectRef × World σ V :=
  (⟨w.cells.length, object.surface.typeName⟩, { w with cells := w.cells ++ [⟨object, 0⟩] })

/-- Changes what an object is. -/
def modifyObject (w : World σ V) (id : Nat)
    (f : HostObject σ (Request σ V) (Answer σ V) → HostObject σ (Request σ V) (Answer σ V)) :
    World σ V :=
  { w with cells := w.cells.modify id fun cell => { cell with object := f cell.object } }

/-- One more handle owns an object. -/
def acquireHandle (w : World σ V) (id : Nat) : World σ V :=
  { w with cells := w.cells.modify id fun cell => { cell with handles := cell.handles + 1 } }

/-- One handle less owns an object. -/
def releaseHandle (w : World σ V) (id : Nat) : World σ V :=
  { w with cells := w.cells.modify id fun cell => { cell with handles := cell.handles - 1 } }

/-- Gives an object a numbered handle. -/
def addHandle (w : World σ V) (ref : ObjectRef) : Nat × World σ V :=
  let w := w.acquireHandle ref.id
  (w.handles.length, { w with handles := w.handles ++ [some ref] })

/-- Adds an object under a numbered handle. -/
def addObject (w : World σ V) (object : HostObject σ (Request σ V) (Answer σ V)) :
    Nat × World σ V :=
  let (ref, w) := w.allocate object
  w.addHandle ref

/-- Drops a numbered handle. -/
def dropHandle (w : World σ V) (handle : Nat) : World σ V :=
  match w.handle? handle with
  | some ref => { w.releaseHandle ref.id with handles := w.handles.set handle none }
  | none => w

/-- Changes a function object. -/
def modifyFunction (w : World σ V) (function : Nat) (f : FunctionObject V → FunctionObject V) :
    World σ V :=
  if function = 0 then w else { w with functions := w.functions.modify (function - 1) f }

/-- One more reference to a function object. -/
def acquireFunction (w : World σ V) (function : Nat) : World σ V :=
  w.modifyFunction function fun f => { f with references := f.references + 1 }

/-- One reference less to a function object. Without any it is gone, and with
it the handle of its binding. -/
def releaseFunction (w : World σ V) (function : Nat) : World σ V :=
  match w.function? function with
  | some f =>
    let w := w.modifyFunction function fun f => { f with references := f.references - 1 }
    if f.references = 1 then w.releaseHandle f.binding.target.id else w
  | none => w

/-- Adds a function object with one reference. The handle of its binding was
acquired when the binding was made. -/
def mint (w : World σ V) (binding : Binding) (trampoline : Trampoline) (codec : Codec V) :
    Nat × World σ V :=
  (w.functions.length + 1,
    { w with functions := w.functions ++ [⟨binding, trampoline, codec, 1⟩] })

/-- The engine keeps a reference to a function object. -/
def retain (w : World σ V) (function : Nat) : World σ V :=
  if function ∈ w.retained then w
  else { w.acquireFunction function with retained := function :: w.retained }

/-- The engine lets go of the reference it keeps to a function object. -/
def release (w : World σ V) (function : Nat) : World σ V :=
  if function ∈ w.retained then
    { w with retained := w.retained.erase function }.releaseFunction function
  else w

/-- Wraps an object, which the adapter owns by a handle. -/
def addAdapter (w : World σ V) (a : Adapter V) : Nat × World σ V :=
  let w := w.acquireHandle a.object.id
  (w.adapters.length, { w with adapters := w.adapters ++ [some a] })

/-- Changes an adapter that was not torn down. -/
def modifyAdapter (w : World σ V) (adapter : Nat) (f : Adapter V → Adapter V) : World σ V :=
  { w with adapters := w.adapters.modify adapter (·.map f) }

/-- Tears an adapter down: it lets go of its callables and then of its
object. -/
def tearDown (w : World σ V) (adapter : Nat) (a : Adapter V) : World σ V :=
  let released := a.methods.foldl (fun w (_, function) => w.releaseFunction function)
    { w with adapters := w.adapters.set adapter none }
  released.releaseHandle a.object.id

/-- Tears an adapter down if nothing keeps it alive. -/
def settleAdapter (w : World σ V) (adapter : Nat) : World σ V :=
  match w.livingAdapter? adapter with
  | some a => if a.isUsed then w else w.tearDown adapter a
  | none => w

/-- Takes an adapter's number away. -/
def dropAdapter (w : World σ V) (adapter : Nat) : World σ V :=
  (w.modifyAdapter adapter fun a => { a with named := false }).settleAdapter adapter

/-- An operation on an adapter begins. -/
def enterAdapter (w : World σ V) (adapter : Nat) : World σ V :=
  w.modifyAdapter adapter fun a => { a with running := a.running + 1 }

/-- An operation on an adapter ends. -/
def leaveAdapter (w : World σ V) (adapter : Nat) : World σ V :=
  (w.modifyAdapter adapter fun a => { a with running := a.running - 1 }).settleAdapter adapter

/-- The callable of a name after one was made for it. An entry that is there
already stays, and the callable just made is let go; otherwise the adapter
keeps the one just made. The caller has a reference to the result. -/
def publish (w : World σ V) (adapter : Nat) (name : String) (function : Nat) : Nat × World σ V :=
  match w.livingAdapter? adapter with
  | some a =>
    match a.cached? name with
    | some winner => (winner, (w.releaseFunction function).acquireFunction winner)
    | none =>
      (function, (w.modifyAdapter adapter fun a =>
        { a with methods := a.methods ++ [(name, function)] }).acquireFunction function)
  | none => (function, w)

/-- Changing one object is seen at its identity only. -/
theorem object?_modifyObject (w : World σ V) (id i : Nat)
    (f : HostObject σ (Request σ V) (Answer σ V) → HostObject σ (Request σ V) (Answer σ V)) :
    (w.modifyObject id f).object? i = if i = id then (w.object? i).map f else w.object? i := by
  simp only [object?, modifyObject, List.getElem?_modify]
  by_cases same : id = i
  · subst same
    simp [Function.comp_def]
  · rw [if_neg (Ne.symm same)]
    simp [same]

/-- Changing an adapter changes no object. -/
@[simp] theorem object?_modifyAdapter (w : World σ V) (adapter i : Nat)
    (f : Adapter V → Adapter V) : (w.modifyAdapter adapter f).object? i = w.object? i := rfl

/-- Changing one adapter is seen at its number only. -/
theorem livingAdapter?_modifyAdapter (w : World σ V) (adapter i : Nat)
    (f : Adapter V → Adapter V) :
    (w.modifyAdapter adapter f).livingAdapter? i =
      if i = adapter then (w.livingAdapter? i).map f else w.livingAdapter? i := by
  simp only [livingAdapter?, modifyAdapter, List.getElem?_modify]
  by_cases same : adapter = i
  · subst same
    rcases w.adapters[adapter]? with _ | place <;> simp
  · rw [if_neg (Ne.symm same)]
    simp [same]

/-- An adapter that is named or on which an operation runs is not torn down. -/
theorem settleAdapter_of_isUsed {w : World σ V} {adapter : Nat} {a : Adapter V}
    (living : w.livingAdapter? adapter = some a) (used : a.isUsed = true) :
    w.settleAdapter adapter = w := by
  rw [settleAdapter, living]
  simp only [used, if_true]

/-- Owning an object changes nothing about it. -/
@[simp] theorem object?_acquireHandle (w : World σ V) (id i : Nat) :
    (w.acquireHandle id).object? i = w.object? i := by
  simp only [object?, acquireHandle, List.getElem?_modify]
  by_cases same : id = i <;> simp [same, Function.comp_def]

/-- Letting go of an object changes nothing about it. -/
@[simp] theorem object?_releaseHandle (w : World σ V) (id i : Nat) :
    (w.releaseHandle id).object? i = w.object? i := by
  simp only [object?, releaseHandle, List.getElem?_modify]
  by_cases same : id = i <;> simp [same, Function.comp_def]

/-- The objects that were there before an allocation are there after it. -/
theorem object?_allocate (w : World σ V) (object : HostObject σ (Request σ V) (Answer σ V))
    (i : Nat) (old : i < w.cells.length) :
    (w.allocate object).2.object? i = w.object? i := by
  simp only [object?, allocate]
  rw [List.getElem?_append_left old]

end World

end Membrane
