import Membrane.Codec

/-!
# A small script engine's values

Values of an engine with one numeric type. Every host number becomes a double;
a number from the engine becomes an integer where it has no fraction and fits,
so a negative zero arrives as zero. Errors are values that the host does not
take.
-/

namespace Membrane

open Membrane.Number

/-- A value of a script engine with one numeric type. -/
inductive ScriptValue where
  | undefined
  | null
  | bool (b : Bool)
  | number (x : Binary64)
  | string (text : String)
  | error (message : String)
  | object (ref : ObjectRef)
  deriving DecidableEq

namespace ScriptValue

/-- The engine's value for a host value. -/
def ofValue : Value → ScriptValue
  | .null => null
  | .bool b => bool b
  | .int n => number (.ofInt n.toInt)
  | .long n => number (.ofInt n.toInt)
  | .double x => number x
  | .string text => string text
  | .object ref => object ref

/-- The host value for a number: an integer of 32 bits where it is one. -/
def valueOfNumber (x : Binary64) : Value :=
  match x.toInt? with
  | some n => if fitsInt n then .int (.ofInt n) else .double x
  | none => .double x

/-- The host value for an engine value. -/
def toValue : ScriptValue → Except Fault Value
  | undefined => .ok .null
  | null => .ok .null
  | bool b => .ok (.bool b)
  | number x => .ok (valueOfNumber x)
  | string text => .ok (.string text)
  | error message => .error (.native ("Error objects cannot be passed to the host: " ++ message))
  | object ref => .ok (.object ref)

/-- Host faults are thrown as error objects, all else as the text alone. -/
def ofError : ScriptError → ScriptValue
  | .fault raised => error raised.message
  | other => string other.message

end ScriptValue

/-- The codec of the script engine. -/
def Codec.script : Codec ScriptValue :=
  refusingMarked
    { toEngine := fun v => .ok (.ofValue v)
      fromEngine := ScriptValue.toValue
      toThrowable := ScriptValue.ofError }

end Membrane
