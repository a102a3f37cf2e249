import Membrane.Engine.Callable
import Membrane.Host.Literal
import Membrane.Host.Object
import Membrane.Options
import Membrane.Query

/-!
# Requests and answers

Everything that can be asked of the bridge, from outside or by a program of a
member, and what is answered. Objects are named by numbered handles, adapters,
classes and functions by the order in which they were made.

A request may carry programs: the members of a class, the replies of a
handwritten object, and what the engine does while a callable is made.
-/

namespace Membrane

/-- An access through an adapter, with the values of the engine. -/
inductive Access (V : Type) where
  | getProperty (name : String)
  | setProperty (name : String) (v : V)
  | getIndexed (index : UInt32)
  | setIndexed (index : UInt32) (v : V)

/-- The outcome of an access: quietly absent, a value, or an exception. -/
inductive AccessResult (V : Type) where
  | absent
  | found (v : V)
  | thrown (exception : Thrown V)

/-- What a host object tells of itself as a whole. -/
structure ObjectInfo where
  object : ObjectRef
  kind : ObjectKind
  length : Nat
  indexer : Option IndexerInfo

/-- What an object holds, as far as it can be seen from outside. -/
inductive Contents (σ : Type) where
  | state (state : σ)
  | elements (array : TypedArray)
  | hidden

/-- The state of an adapter and of the engine's function objects. -/
structure AdapterInfo where
  object : ObjectRef
  cached : Nat
  options : Options
  minted : Nat
  live : Nat

/-- What is answered to a request. -/
inductive Answer (σ V : Type) where
  /-- The request names something that does not exist. -/
  | invalid
  /-- The request is done and has nothing to tell. -/
  | done
  | replied (reply : Reply)
  | definedClass (number : Nat) (name : String)
  | made (handle : Nat)
  | inspected (info : ObjectInfo)
  | described (members : List MemberKind) (property : Option PropertyInfo)
  | contents (contents : Contents σ)
  /-- The outcome of a call to a host object, or of making one. -/
  | returned (outcome : Except Fault Value)
  | adapted (adapter : Nat)
  /-- The options of an adapter could not be read. -/
  | badOptions (error : OptionsError)
  /-- The number of function objects alive. -/
  | live (count : Nat)
  | adapter (info : AdapterInfo)
  | accessed (result : AccessResult V)
  /-- A callable was found; where it was also called, the result of the call. -/
  | resolved (function : Nat) (result : Option (AccessResult V))
  | bound (binding : Binding)
  | released (wasRetained : Bool) (live : Nat)

/-- What can be asked of the bridge. -/
inductive Request (σ V : Type) : Type where
  /-- A question that has nothing to do with any object of the bridge. -/
  | ask (query : Query)
  | defineClass (hostClass : HostClass σ (Request σ V) (Answer σ V))
  | makeInstance (hostClass : Nat) (state : σ)
  /-- An array of default elements. -/
  | makeFilled (element : ValueType) (length : Nat)
  /-- An array of given elements. -/
  | makeArray (element : ValueType) (values : List Value)
  | makeHandwritten (surface : Surface)
      (replies : HostCall → Option (Program (Request σ V) (Answer σ V) (Except Fault Value)))
  | inspect (handle : Nat)
  | describe (handle : Nat) (name : String)
  | contents (handle : Nat)
  | call (handle : Nat) (call : HostCall)
  /-- Runs a program while the state of an instance is borrowed for reading. -/
  | hold (handle : Nat) (program : Program (Request σ V) (Answer σ V) Unit)
  /-- Makes an adapter; options may be given as a text, and the flag apart. -/
  | adapt (handle : Nat) (codec : Codec V) (options : Option String) (reject : Option Bool)
      (trampoline : Trampoline)
  | dropAdapter (adapter : Nat)
  | inspectAdapter (adapter : Nat)
  | setOptions (adapter : Nat) (options : Options)
  | access (adapter : Nat) (access : Access V)
  /-- Finds or makes the callable of a method. The programs are what the engine
  does while it wraps the binding and before it makes the function object. The
  engine may keep a reference to the callable, and may call it at once, with
  arguments that it reads when the callable is there. -/
  | resolve (adapter : Nat) (name : String) (retain : Bool) (args : Option (List (Literal V)))
      (duringWrap duringMake : Program (Request σ V) (Answer σ V) Unit)
  | callFunction (function : Nat) (args : List V)
  | inspectFunction (function : Nat)
  | release (function : Nat)

/-- A program over the requests and answers of a bridge. -/
abbrev Routine (σ V α : Type) :=
  Program (Request σ V) (Answer σ V) α

end Membrane
