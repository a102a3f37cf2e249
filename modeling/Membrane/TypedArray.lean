import Membrane.Convert

/-!
# Typed arrays

An array of host values with a declared element type and a fixed length. A
store takes values of the element type and values that widen to it; storing
null writes the element type's default.
-/

namespace Membrane

open Membrane.Number

/-- What an array of this element type stores for a value. -/
def ValueType.admit (element : ValueType) (v : Value) : Except Fault Value :=
  match v.type? with
  | none => .ok element.default
  | some source =>
    if element.isAssignableFrom source then .ok v
    else if element.widensFrom source then v.changeType element
    else .error (v.castFault element)

/-- An array with a declared element type. -/
structure TypedArray where
  elementType : ValueType
  elements : List Value
  deriving DecidableEq

namespace TypedArray

/-- An array of default elements. -/
def filled (element : ValueType) (length : Nat) : TypedArray :=
  ⟨element, List.replicate length element.default⟩

/-- An array of given elements, each admitted in turn; the first refusal is the
outcome. -/
def ofValues (element : ValueType) (values : List Value) : Except Fault TypedArray := do
  return ⟨element, ← values.mapM element.admit⟩

/-- The runtime type name of an array. -/
def typeName (a : TypedArray) : String :=
  a.elementType.display ++ "[]"

/-- The number of elements. -/
def length (a : TypedArray) : Nat :=
  a.elements.length

/-- The element at an index. -/
def get (a : TypedArray) (index : Nat) : Except Fault Value :=
  match a.elements[index]? with
  | some v => .ok v
  | none => .error (.indexOutOfRange index a.length)

/-- Stores a value at an index. The value is admitted before the index is
looked at. -/
def set (a : TypedArray) (index : Nat) (v : Value) : Except Fault TypedArray := do
  let stored ← a.elementType.admit v
  if index < a.length then .ok { a with elements := a.elements.set index stored }
  else .error (.indexOutOfRange index a.length)

/-- The length as a host value. -/
def lengthValue (a : TypedArray) : Except Fault Value :=
  if fitsInt a.length then .ok (.int (.ofNat a.length))
  else .error (.overflow ValueType.int.display)

end TypedArray

end Membrane
