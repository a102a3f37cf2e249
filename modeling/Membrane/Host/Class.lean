import Membrane.Convert
import Membrane.Host.Program
import Membrane.Host.Surface

/-!
# Classes of host objects

A class lists the members of its instances in declaration order: properties
with a getter, a setter or both, methods with or without a fixed number of
arguments, and at most one indexer. Names may be repeated in any order. The
surface of an instance and the member that serves a call are found by separate
searches of the same list; the searches run no member, and a call that finds
none, or whose arguments do not fit, is refused before any member starts.
-/

namespace Membrane

/-- One declared member. A getter is given no arguments and only reads the
state of the instance; a setter is given the new value. -/
inductive Declaration (σ Request Answer : Type) where
  | property (name : String) (declaredType : ValueType)
      (getter : Option (σ → List Value → Program Request Answer (Except Fault Value)))
      (setter : Option (σ → List Value → Program Request Answer (σ × Except Fault Value)))
  /-- A method; without an arity it takes any number of arguments. -/
  | method (name : String) (arity : Option Nat)
      (body : σ → List Value → Program Request Answer (σ × Except Fault Value))

/-- The indexer of a class. Its members are given the index as an integer of 64
bits, and a setter the new value after it. -/
structure Indexer (σ Request Answer : Type) where
  elementType : ValueType
  getter : Option (σ → List Value → Program Request Answer (Except Fault Value))
  setter : Option (σ → List Value → Program Request Answer (σ × Except Fault Value))

/-- A class of host objects whose instances have a state of type `σ`. -/
structure HostClass (σ Request Answer : Type) where
  name : String
  kind : ObjectKind
  declarations : List (Declaration σ Request Answer)
  indexer : Option (Indexer σ Request Answer)

/-- What of a class runs: which accessor of which declaration. -/
inductive Slot where
  | getter (declaration : Nat)
  | setter (declaration : Nat)
  | method (declaration : Nat)
  | itemGetter
  | itemSetter
  deriving DecidableEq

/-- A member as it runs: it reads the state of the instance, or it writes it. -/
inductive Closure (σ Request Answer : Type) where
  | reads (run : σ → List Value → Program Request Answer (Except Fault Value))
  | writes (run : σ → List Value → Program Request Answer (σ × Except Fault Value))

/-- A member found for a call, with the arguments it is given. -/
structure Selection (σ Request Answer : Type) where
  slot : Slot
  closure : Closure σ Request Answer
  args : List Value

/-- What a successful member answers: the results of setters are dropped. -/
def Slot.answer (slot : Slot) (returned : Value) : Value :=
  match slot with
  | setter _ | itemSetter => .null
  | _ => returned

namespace Declaration

variable {σ Request Answer : Type}

/-- The name a member is declared under. -/
def name : Declaration σ Request Answer → String
  | property name .. => name
  | method name .. => name

/-- The sort of a declared member. -/
def kind : Declaration σ Request Answer → MemberKind
  | property .. => .property
  | method .. => .method

/-- The description of a declared property. -/
def info? : Declaration σ Request Answer → Option PropertyInfo
  | property name declaredType getter setter =>
    some ⟨name, declaredType, getter.isSome, setter.isSome⟩
  | method .. => none

/-- The getter of a declared property, as it is found at a position of the
class. -/
def getter? (position : Nat) : Declaration σ Request Answer → Option (Selection σ Request Answer)
  | property _ _ getter _ => getter.map fun run => ⟨.getter position, .reads run, []⟩
  | method .. => none

/-- The setter of a declared property, given a new value. -/
def setter? (position : Nat) (v : Value) :
    Declaration σ Request Answer → Option (Selection σ Request Answer)
  | property _ _ _ setter => setter.map fun run => ⟨.setter position, .writes run, [v]⟩
  | method .. => none

/-- A declared method that takes these arguments. -/
def method? (position : Nat) (args : List Value) :
    Declaration σ Request Answer → Option (Selection σ Request Answer)
  | property .. => none
  | method _ arity body =>
    if arity.all (· = args.length) then some ⟨.method position, .writes body, args⟩ else none

end Declaration

namespace HostClass

variable {σ Request Answer : Type}

/-- The members declared under a name, with their positions. -/
def named (c : HostClass σ Request Answer) (name : String) :
    List (Declaration σ Request Answer × Nat) :=
  c.declarations.zipIdx.filter fun (declaration, _) => declaration.name = name

/-- The first property declared under a name, whatever its accessors. -/
def property (c : HostClass σ Request Answer) (name : String) : Option PropertyInfo :=
  (c.named name).findSome? fun (declaration, _) => declaration.info?

/-- The first getter declared under a name. -/
def getter? (c : HostClass σ Request Answer) (name : String) :
    Option (Selection σ Request Answer) :=
  (c.named name).findSome? fun (declaration, position) => declaration.getter? position

/-- The first setter declared under a name. -/
def setter? (c : HostClass σ Request Answer) (name : String) (v : Value) :
    Option (Selection σ Request Answer) :=
  (c.named name).findSome? fun (declaration, position) => declaration.setter? position v

/-- The first method declared under a name that takes these arguments. -/
def method? (c : HostClass σ Request Answer) (name : String) (args : List Value) :
    Option (Selection σ Request Answer) :=
  (c.named name).findSome? fun (declaration, position) => declaration.method? position args

/-- What an instance shows of itself. -/
def surface (c : HostClass σ Request Answer) : Surface where
  typeName := c.name
  kind := c.kind
  members name := (c.named name).map fun (declaration, _) => declaration.kind
  property := c.property
  indexer := c.indexer.map fun indexer =>
    ⟨1, indexer.elementType, indexer.getter.isSome, indexer.setter.isSome⟩
  length := 0

/-- The indexer getter for a read. Arguments after the first are not looked
at. -/
def itemGetter (c : HostClass σ Request Answer) (args : List Value) :
    Except Fault (Selection σ Request Answer) :=
  match c.indexer.bind (·.getter), args with
  | some run, index :: _ => do
    return ⟨.itemGetter, .reads run, [.long (← index.extractLong)]⟩
  | _, _ => .error (c.surface.refusal (.getItem args))

/-- The indexer setter for a write, which has one index and one value. -/
def itemSetter (c : HostClass σ Request Answer) (args : List Value) :
    Except Fault (Selection σ Request Answer) :=
  match c.indexer.bind (·.setter), args with
  | some run, [index, v] => do
    return ⟨.itemSetter, .writes run, [.long (← index.extractLong), v]⟩
  | _, _ => .error (c.surface.refusal (.setItem args))

/-- The member that serves a call, or the refusal of the call. -/
def select (c : HostClass σ Request Answer) (call : HostCall) :
    Except Fault (Selection σ Request Answer) :=
  let found (selection : Option (Selection σ Request Answer)) :=
    match selection with
    | some selection => .ok selection
    | none => .error (c.surface.refusal call)
  match call with
  | .getProperty name => found (c.getter? name)
  | .setProperty name v => found (c.setter? name v)
  | .invoke name args => found (c.method? name args)
  | .getItem args => c.itemGetter args
  | .setItem args => c.itemSetter args
  | .getElement _ | .setElement .. => found none

end HostClass

end Membrane
