import Membrane.Bridge.Callable
import Membrane.Query.Answer

/-!
# Performing requests

The meaning of every request. Members may re-enter the bridge down to a given
depth: a request at depth zero still runs members, but their own requests are
not performed. What the engine does while it makes a callable, and what runs
while an instance is held, is not deeper than the request that it belongs to.
-/

namespace Membrane

variable {σ V : Type}

/-- Acts on the object of a handle. -/
def withHandle (handle : Nat) (act : ObjectRef → Act σ V (Answer σ V)) : Act σ V (Answer σ V) := do
  match ← Act.look (·.handle? handle) with
  | some ref => act ref
  | none => return .invalid

/-- Acts on an adapter that was not dropped. -/
def withAdapter (adapter : Nat) (act : Adapter V → Act σ V (Answer σ V)) :
    Act σ V (Answer σ V) := do
  match ← Act.look (·.adapter? adapter) with
  | some a => act a
  | none => return .invalid

/-- Runs an operation on an adapter, which lives until the operation ends. -/
def whileUsing {α : Type} (adapter : Nat) (act : Act σ V α) : Act σ V α := do
  Act.update (·.enterAdapter adapter)
  let result ← act
  Act.update (·.leaveAdapter adapter)
  return result

/-- Acts on a function object that the engine keeps. -/
def withRetained (function : Nat) (act : FunctionObject V → Act σ V (Answer σ V)) :
    Act σ V (Answer σ V) := do
  match ← Act.look fun w => if function ∈ w.retained then w.function? function else none with
  | some f => act f
  | none => return .accessed .absent

/-- Adds an object and answers its handle. -/
def makeObject (object : HostObject σ (Request σ V) (Answer σ V)) : Act σ V (Answer σ V) := do
  return .made (← Act.change (·.addObject object))

/-- What can be seen of an object. A state that a writer holds cannot. -/
def World.contents? (w : World σ V) (ref : ObjectRef) : Option (Contents σ) :=
  match w.object? ref.id with
  | some (.ofClass _ state lease) => lease.read?.map fun _ => .state state
  | some (.array a) => some (.elements a)
  | some (.handwritten ..) => some .hidden
  | none => none

/-- The options of a new adapter: read from a text if there is one, and then
the flag given apart, if it is. -/
def adapterOptions (text : Option String) (reject : Option Bool) : Except OptionsError Options := do
  let read ← match text with
    | some text => Options.read? text
    | none => .ok .unset
  return match reject with
    | some flag => ⟨flag⟩
    | none => read

/-- Makes an adapter for the object of a handle. -/
def adapt (handle : Nat) (codec : Codec V) (text : Option String) (reject : Option Bool)
    (trampoline : Trampoline) : Act σ V (Answer σ V) :=
  withHandle handle fun ref => do
    match adapterOptions text reject with
    | .error error => return .badOptions error
    | .ok options =>
      return .adapted (← Act.change (·.addAdapter {
        object := ref, codec := codec, options := options, trampoline := trampoline }))

/-- Calls a function with arguments that are read now, if there are any. -/
def callAtOnce (entry : Entry σ V) (function : Nat) (args : Option (List (Literal V))) :
    Act σ V (Option (AccessResult V)) :=
  match args with
  | some literals => do
    let args ← (Literal.readAll literals).run entry
    return some (← callFunction entry function args)
  | none => .pure none

/-- What is left to do with a resolved callable: the engine may keep it and may
call it, and then the caller's own reference is let go. -/
def useFunction (entry : Entry σ V) (function : Nat) (retain : Bool)
    (args : Option (List (Literal V))) : Act σ V (Answer σ V) := do
  if retain then Act.update (·.retain function)
  let result ← callAtOnce entry function args
  Act.update (·.releaseFunction function)
  return .resolved function result

/-- Holds the state of the object of a handle for reading while a program
runs. -/
def holdState (handle : Nat) (program : Act σ V Unit) : Act σ V (Answer σ V) :=
  withHandle handle fun ref => do
    let held := program.within fun _ => .held ref.id
    match ← whileReading ref.id fun _ => held with
    | some _ => return .done
    | none => return .invalid

/-- Finds or makes the callable of a method and uses it. -/
def resolveCallable (entry : Entry σ V) (adapter : Nat) (name : String) (retain : Bool)
    (args : Option (List (Literal V))) (duringWrap duringMake : Act σ V Unit) :
    Act σ V (Answer σ V) :=
  withAdapter adapter fun _ => do
    match ← whileUsing adapter (resolveMethod adapter name duringWrap duringMake) with
    | some function => useFunction entry function retain args
    | none => return .accessed .absent

/-- Calls a function that the engine keeps; it stays alive during the call. -/
def callRetained (entry : Entry σ V) (function : Nat) (args : List V) : Act σ V (Answer σ V) :=
  withRetained function fun f => do
    Act.update (·.acquireFunction function)
    let result ← f.call entry args
    Act.update (·.releaseFunction function)
    return .accessed result

mutual

/-- Performs one request. -/
def perform (entry : Entry σ V) : Request σ V → Act σ V (Answer σ V)
  | .ask query => .pure (.replied query.answer)
  | .defineClass hostClass => do
    let number ← Act.change fun w =>
      (w.classes.length, { w with classes := w.classes ++ [hostClass] })
    return .definedClass number hostClass.name
  | .makeInstance number state => do
    match ← Act.look (·.classes[number]?) with
    | some hostClass => makeObject (.ofClass hostClass state .free)
    | none => return .invalid
  | .makeFilled element length => makeObject (.array (.filled element length))
  | .makeArray element values =>
    match TypedArray.ofValues element values with
    | .ok a => makeObject (.array a)
    | .error fault => .pure (.returned (.error fault))
  | .makeHandwritten surface replies => makeObject (.handwritten surface replies)
  | .inspect handle => withHandle handle fun ref => do
    let surface ← Act.look (·.surface ref)
    return .inspected ⟨ref, surface.kind, surface.length, surface.indexer⟩
  | .describe handle name => withHandle handle fun ref => do
    let surface ← Act.look (·.surface ref)
    return .described (surface.members name) (surface.property name)
  | .contents handle => withHandle handle fun ref => do
    match ← Act.look (·.contents? ref) with
    | some contents => return .contents contents
    | none => return .invalid
  | .call handle call => withHandle handle fun ref => do
    return .returned (← callObject entry ref call)
  | .hold handle program => holdState handle (performProgram entry program)
  | .adapt handle codec text reject trampoline => adapt handle codec text reject trampoline
  | .dropAdapter adapter => withAdapter adapter fun _ => do
    Act.update (·.dropAdapter adapter)
    return .live (← Act.look (·.liveFunctions))
  | .inspectAdapter adapter => withAdapter adapter fun a => do
    let minted ← Act.look (·.functions.length)
    let live ← Act.look (·.liveFunctions)
    return .adapter ⟨a.object, a.methods.length, a.options, minted, live⟩
  | .setOptions adapter options => withAdapter adapter fun _ => do
    Act.update (·.modifyAdapter adapter fun a => { a with options := options })
    return .done
  | .access adapter access => withAdapter adapter fun a => do
    return .accessed (← whileUsing adapter (a.perform entry access))
  | .resolve adapter name retain args duringWrap duringMake =>
    resolveCallable entry adapter name retain args (performProgram entry duringWrap)
      (performProgram entry duringMake)
  | .callFunction function args => callRetained entry function args
  | .inspectFunction function => withRetained function fun f => .pure (.bound f.binding)
  | .release function => do
    let wasRetained ← Act.look fun w => decide (function ∈ w.retained)
    Act.update (·.release function)
    return .released wasRetained (← Act.look (·.liveFunctions))
termination_by structural request => request

/-- Runs a program that belongs to a request, at the depth of that request. -/
def performProgram (entry : Entry σ V) : Routine σ V Unit → Act σ V Unit
  | .done result => .pure result
  | .fresh template next =>
    (Act.change (·.allocate (.ofTemplate template))).bind fun ref =>
      performProgram entry (next ref)
  | .held handle next =>
    (Act.look (·.handle? handle)).bind fun ref => performProgram entry (next ref)
  | .room next => performProgram entry (next true)
  | .request r next =>
    ((perform entry r).within (.performed r)).bind fun answer =>
      performProgram entry (next (some answer))
termination_by structural program => program

end

/-- A program that belongs to a request runs like a member's program whose
requests are performed at the depth of that request. -/
theorem performProgram_eq_run (entry : Entry σ V) (p : Routine σ V Unit) :
    performProgram entry p = p.run (some (perform entry)) := by
  induction p with
  | done result => rfl
  | fresh template next ih => simp only [performProgram, Program.run, ih]
  | held handle next ih => simp only [performProgram, Program.run, ih]
  | room next ih => simp only [performProgram, Program.run, ih, Option.isSome_some]
  | request r next ih => simp only [performProgram, Program.run, ih]

/-- The entry that lets members re-enter the bridge down to a depth. -/
def entryAt : Nat → Entry σ V
  | 0 => none
  | depth + 1 => some (perform (entryAt depth))

end Membrane
