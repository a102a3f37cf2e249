import Membrane.Bridge.Calls

/-!
# Access through an adapter

An adapter answers an engine's reads and writes of properties and of indexed
elements. It looks at the surface of its object, converts values by its codec,
and calls the object at most once for a property or an indexer, at most twice
for an element. What the surface does not offer is absent; every fault becomes
an exception of the engine.
-/

namespace Membrane

open Membrane.Number

variable {σ V : Type}

/-- The argument by which an indexer is given an index: an integer of 32 bits
where it fits, and of 64 otherwise. -/
def indexArgument (index : UInt32) : Value :=
  if fitsInt index.toNat then .int (.ofNat index.toNat) else .long (.ofNat index.toNat)

/-- The surface of the object that a reference denotes. -/
def World.surface (w : World σ V) (ref : ObjectRef) : Surface :=
  match w.object? ref.id with
  | some object => object.surface
  | none => HostObject.blankSurface ref.typeName

namespace Codec

/-- An exception instead of a value. -/
def throw (codec : Codec V) (error : ScriptError) : AccessResult V :=
  .thrown (codec.throwing error)

/-- The result of an access that went to the host; a fault is made a script
error in the given way. -/
def conclude (codec : Codec V) (report : Fault → ScriptError) : Except Fault V → AccessResult V
  | .ok v => .found v
  | .error fault => codec.throw (report fault)

/-- Hands the outcome of a host call to the engine. -/
def deliver (codec : Codec V) (report : Fault → ScriptError) (outcome : Except Fault Value) :
    AccessResult V :=
  codec.conclude report (outcome.bind codec.toEngine)

end Codec

namespace Adapter

/-- Reads a named property. -/
def getProperty (entry : Entry σ V) (a : Adapter V) (name : String) :
    Act σ V (AccessResult V) := do
  let surface ← Act.look (·.surface a.object)
  match surface.property name with
  | none => return .absent
  | some info =>
    if info.readable then
      let outcome ← callObject entry a.object (.getProperty name)
      return a.codec.deliver .ofFault outcome
    else return a.codec.throw (.notReadable name)

/-- Writes a named property. The value is converted before the property is
asked whether it may be set, and a write that succeeds answers the value that
was handed in. -/
def setProperty (entry : Entry σ V) (a : Adapter V) (name : String) (v : V) :
    Act σ V (AccessResult V) := do
  let surface ← Act.look (·.surface a.object)
  match surface.property name with
  | none =>
    if a.options.contains ⟨true⟩ then return a.codec.throw (.unknownMember name)
    else return .absent
  | some info =>
    match a.codec.forSlot v info.declaredType with
    | .error fault => return a.codec.throw (.ofFault fault)
    | .ok value =>
      if info.writable then
        let outcome ← callObject entry a.object (.setProperty name value)
        return a.codec.conclude .ofFault (outcome.map fun _ => v)
      else return a.codec.throw (.notWritable name)

/-- Reads at an index: an element of an array, or through the single indexer of
a reference object. A fault of an indexer is reported by its description. -/
def getIndexed (entry : Entry σ V) (a : Adapter V) (index : UInt32) :
    Act σ V (AccessResult V) := do
  let surface ← Act.look (·.surface a.object)
  match surface.kind with
  | .array =>
    let outcome ← callObject entry a.object (.getElement index.toNat)
    return a.codec.deliver .ofFault outcome
  | .reference =>
    match surface.singleIndexer with
    | none => return .absent
    | some indexer =>
      if indexer.readable then
        let outcome ← callObject entry a.object (.getItem [indexArgument index])
        return a.codec.deliver .ofDescription outcome
      else return a.codec.throw (.notReadable indexerName)
  | .plain => return .absent

/-- Stores an element of an array and reads it back. -/
def setElement (entry : Entry σ V) (a : Adapter V) (index : UInt32) (value : Value) :
    Act σ V (AccessResult V) := do
  match ← callObject entry a.object (.setElement index.toNat value) with
  | .error fault => return a.codec.throw (.ofFault fault)
  | .ok _ =>
    let outcome ← callObject entry a.object (.getElement index.toNat)
    return a.codec.deliver .ofFault outcome

/-- Writes at an index: an element of an array, or through the single indexer
of any other object. An indexer is given the value as the codec converts it,
without a coercion to the element type, and its result is the answer. -/
def setIndexed (entry : Entry σ V) (a : Adapter V) (index : UInt32) (v : V) :
    Act σ V (AccessResult V) := do
  let surface ← Act.look (·.surface a.object)
  if surface.kind = .array then
    match a.codec.fromEngine v with
    | .error fault => return a.codec.throw (.ofFault fault)
    | .ok value => a.setElement entry index value
  else
    match surface.singleIndexer with
    | none => return .absent
    | some indexer =>
      if indexer.writable then
        match a.codec.fromEngine v with
        | .error fault => return a.codec.throw (.ofFault fault)
        | .ok value =>
          let outcome ← callObject entry a.object (.setItem [indexArgument index, value])
          return a.codec.deliver .ofFault outcome
      else return a.codec.throw (.notWritable indexerName)

/-- Performs an access. -/
def perform (entry : Entry σ V) (a : Adapter V) : Access V → Act σ V (AccessResult V)
  | .getProperty name => a.getProperty entry name
  | .setProperty name v => a.setProperty entry name v
  | .getIndexed index => a.getIndexed entry index
  | .setIndexed index v => a.setIndexed entry index v

end Adapter

end Membrane
