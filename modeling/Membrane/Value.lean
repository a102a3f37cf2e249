import Membrane.Number.Binary64

/-!
# Host values and declared types

A host value carries its runtime type; a slot of a host object (a property, an
array element) has a declared type. Assignability says which values a slot
takes as they are, widening which primitive values an array also takes after a
conversion that keeps the number's sort.
-/

namespace Membrane

open Membrane.Number

/-- A reference to a host object: the object it denotes and that object's
runtime type name. -/
structure ObjectRef where
  id : Nat
  typeName : String
  deriving DecidableEq

/-- Two references are the same when they denote one object. -/
def ObjectRef.same (r s : ObjectRef) : Bool :=
  r.id == s.id

/-- A value in the host's own type system. -/
inductive Value where
  | null
  | bool (b : Bool)
  | int (n : Int32)
  | long (n : Int64)
  | double (x : Binary64)
  | string (text : String)
  | object (ref : ObjectRef)
  deriving DecidableEq

/-- The declared type of a slot. -/
inductive ValueType where
  /-- Takes every value. -/
  | any
  | bool
  | int
  | long
  | double
  | string
  /-- Objects whose runtime type has this name. -/
  | object (name : String)
  deriving DecidableEq

namespace ValueType

/-- The name of a type in fault messages. -/
def display : ValueType → String
  | any => "Object"
  | bool => "Boolean"
  | int => "Int32"
  | long => "Int64"
  | double => "Double"
  | string => "String"
  | object name => name

/-- Whether a slot takes values of type `source` as they are. -/
def isAssignableFrom (target source : ValueType) : Bool :=
  target == any || target == source

/-- Assignability, and the primitive widenings that arrays accept. -/
def widensFrom (target source : ValueType) : Bool :=
  target.isAssignableFrom source ||
    match target, source with
    | long, int => true
    | double, int => true
    | double, long => true
    | _, _ => false

/-- What a slot holds after null is written to it. -/
def default : ValueType → Value
  | bool => .bool false
  | int => .int 0
  | long => .long 0
  | double => .double .zero
  | any | string | object _ => .null

end ValueType

namespace Value

/-- The runtime type of a value; null has none. -/
def type? : Value → Option ValueType
  | null => none
  | bool _ => some .bool
  | int _ => some .int
  | long _ => some .long
  | double _ => some .double
  | string _ => some .string
  | object ref => some (.object ref.typeName)

/-- The name of a value's runtime type in fault messages. -/
def label (v : Value) : String :=
  match v.type? with
  | some type => type.display
  | none => "null"

/-- Whether a value is null. -/
def isNull : Value → Bool
  | null => true
  | _ => false

/-- Whether a value is a host object. -/
def isObject : Value → Bool
  | object _ => true
  | _ => false

/-- Equality of host values: numbers of different types differ, doubles compare
numerically, and objects compare by identity. -/
def same : Value → Value → Bool
  | null, null => true
  | bool a, bool b => a == b
  | int m, int n => m == n
  | long m, long n => m == n
  | double x, double y => x.same y
  | string s, string t => s == t
  | object r, object s => r.same s
  | _, _ => false

end Value

end Membrane
