import Membrane.Fault
import Membrane.Value

/-!
# What a host object shows

The surface of a host object is what can be learned of it without running any
of its members: its type name, its kind, the members of a name, its properties
and its indexer. A host call asks it to do something; an object that does not
answer a call refuses it by a fault that only depends on its surface.
-/

namespace Membrane

/-- How the elements of an object are reached. -/
inductive ObjectKind where
  /-- Elements are addressed directly. -/
  | array
  /-- A reference type, which may have an indexer. -/
  | reference
  /-- A plain value type. -/
  | plain
  deriving DecidableEq

/-- The sort of a member. -/
inductive MemberKind where
  | method
  | property
  | field
  | event
  | constructor
  | nestedType
  deriving DecidableEq

/-- The description of a named property. -/
structure PropertyInfo where
  name : String
  declaredType : ValueType
  readable : Bool
  writable : Bool
  deriving DecidableEq

/-- The description of an indexer. The value of a write is not one of its
parameters. -/
structure IndexerInfo where
  parameterCount : Nat
  elementType : ValueType
  readable : Bool
  writable : Bool
  deriving DecidableEq

/-- The name by which faults and refusals speak of an indexer. -/
def indexerName : String :=
  "Item"

/-- A request to a host object. The arguments of an item write are the index
arguments followed by the value. -/
inductive HostCall where
  | getProperty (name : String)
  | setProperty (name : String) (value : Value)
  | invoke (name : String) (args : List Value)
  | getItem (args : List Value)
  | setItem (args : List Value)
  | getElement (index : Nat)
  | setElement (index : Nat) (value : Value)
  deriving DecidableEq

namespace HostCall

/-- What a successful call answers: writes of properties and of elements answer
null whatever was returned to them, the others what was returned. -/
def answer (call : HostCall) (returned : Value) : Value :=
  match call with
  | setProperty .. | setElement .. => .null
  | _ => returned

end HostCall

/-- What an object shows of itself. -/
structure Surface where
  typeName : String
  kind : ObjectKind
  /-- The kinds of the members of a name, in declaration order. -/
  members : String → List MemberKind
  property : String → Option PropertyInfo
  indexer : Option IndexerInfo
  length : Nat

namespace Surface

/-- How an object refuses a call that it does not answer. -/
def refusal (surface : Surface) : HostCall → Fault
  | .getProperty name | .setProperty name _ | .invoke name _ =>
    .missingMember surface.typeName name
  | .getItem _ | .setItem _ => .missingMember surface.typeName indexerName
  | .getElement index | .setElement index _ => .indexOutOfRange index surface.length

/-- An indexer of exactly one parameter, the only sort the boundary uses. -/
def singleIndexer (surface : Surface) : Option IndexerInfo :=
  surface.indexer.filter (·.parameterCount = 1)

end Surface

end Membrane
