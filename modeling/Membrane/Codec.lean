import Membrane.Convert

/-!
# Codecs

A codec carries values across the boundary between an engine and the host. The
bridge never looks inside an engine value; it hands values across, asks for a
coercion where a slot does not take a value as it is, and asks for the value to
throw for an error.
-/

namespace Membrane

/-- A converter between the values of an engine and host values. -/
structure Codec (V : Type) where
  toEngine : Value → Except Fault V
  fromEngine : V → Except Fault Value
  /-- Converts a host value to a declared type. -/
  coerce : Value → ValueType → Except Fault Value := Value.changeType
  /-- The engine value that a script catches for an error. -/
  toThrowable : ScriptError → V

namespace Codec

variable {V : Type}

/-- The host value for an engine value that is written to a slot: as the codec
gives it where it is null or assignable, and coerced otherwise. -/
def forSlot (codec : Codec V) (v : V) (declared : ValueType) : Except Fault Value := do
  let value ← codec.fromEngine v
  match value.type? with
  | some actual =>
    if declared.isAssignableFrom actual then .ok value else codec.coerce value declared
  | none => .ok value

/-- What is thrown for an error. -/
def throwing (codec : Codec V) (error : ScriptError) : Thrown V :=
  ⟨error, codec.toThrowable error⟩

/-- A codec that refuses to hand two sorts of marked texts to the engine: one
with a bare fault, the other with a fault inside an invocation. -/
def refusingMarked (codec : Codec V) : Codec V :=
  { codec with
    toEngine := fun
      | .string text =>
        let refusal := Fault.native ("cannot encode " ++ text)
        if "!enc".toList.isPrefixOf text.toList then .error refusal
        else if "!wrap".toList.isPrefixOf text.toList then .error (.targetInvocation refusal)
        else codec.toEngine (.string text)
      | value => codec.toEngine value }

end Codec

end Membrane
