import Membrane.Host.Class
import Membrane.TypedArray

/-!
# Host objects

A host object is an instance of a class, a typed array, or an object written by
hand: a surface, and a program for each call that it chooses to answer itself.

An instance lends its state to the members that run. Any number of readers may
share it, or one writer holds it alone; a member that cannot borrow the state
does not start.
-/

namespace Membrane

/-- Who holds the state of an instance: a number of readers, or one writer. -/
inductive Lease where
  | readers (count : Nat)
  | writer
  deriving DecidableEq

namespace Lease

/-- The lease of an instance that nobody uses. -/
def free : Lease :=
  .readers 0

/-- One more reader, unless a writer holds the state. -/
def read? : Lease → Option Lease
  | readers count => some (readers (count + 1))
  | writer => none

/-- A writer, if nobody holds the state. -/
def write? : Lease → Option Lease
  | readers 0 => some writer
  | _ => none

/-- One reader less. -/
def endRead : Lease → Lease
  | readers count => readers (count - 1)
  | writer => writer

/-- The writer is done. -/
def endWrite : Lease → Lease
  | writer => free
  | lease => lease

end Lease

/-- A host object. -/
inductive HostObject (σ Request Answer : Type) where
  | ofClass (hostClass : HostClass σ Request Answer) (state : σ) (lease : Lease)
  | array (array : TypedArray)
  | handwritten (surface : Surface)
      (replies : HostCall → Option (Program Request Answer (Except Fault Value)))

namespace HostObject

variable {σ Request Answer : Type}

/-- What an array shows of itself: its length, as a property and as such. -/
def arraySurface (a : TypedArray) : Surface where
  typeName := a.typeName
  kind := .array
  members name := if name = "Length" then [.property] else []
  property name := if name = "Length" then some ⟨"Length", .int, true, false⟩ else none
  indexer := none
  length := a.length

/-- The answer of an array to a call, and the array after it. -/
def callArray (a : TypedArray) (call : HostCall) : Except Fault Value × TypedArray :=
  match call with
  | .getElement index => (a.get index, a)
  | .setElement index v =>
    match a.set index v with
    | .ok changed => (.ok .null, changed)
    | .error fault => (.error fault, a)
  | .getProperty name =>
    if name = "Length" then (a.lengthValue, a)
    else (.error ((arraySurface a).refusal call), a)
  | _ => (.error ((arraySurface a).refusal call), a)

/-- What a host object shows of itself. -/
def surface : HostObject σ Request Answer → Surface
  | .ofClass hostClass .. => hostClass.surface
  | .array a => arraySurface a
  | .handwritten surface _ => surface

/-- The surface of an object that has a type name and nothing else. -/
def blankSurface (typeName : String) : Surface where
  typeName := typeName
  kind := .reference
  members _ := []
  property _ := none
  indexer := none
  length := 0

/-- The object that a template describes. -/
def ofTemplate : Template → HostObject σ Request Answer
  | .named typeName => .handwritten (blankSurface typeName) fun _ => none
  | .array element => .array (.filled element 0)

/-- The same instance under another lease. -/
def withLease (lease : Lease) : HostObject σ Request Answer → HostObject σ Request Answer
  | .ofClass hostClass state _ => .ofClass hostClass state lease
  | object => object

/-- One reader of an instance less. -/
def endRead : HostObject σ Request Answer → HostObject σ Request Answer
  | .ofClass hostClass state lease => .ofClass hostClass state lease.endRead
  | object => object

/-- The writer of an instance is done and leaves a state behind. -/
def endWrite (state : σ) : HostObject σ Request Answer → HostObject σ Request Answer
  | .ofClass hostClass _ lease => .ofClass hostClass state lease.endWrite
  | object => object

end HostObject

end Membrane
