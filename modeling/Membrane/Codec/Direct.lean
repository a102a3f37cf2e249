import Membrane.Codec

/-!
# Engines that use host values

Codecs of engines whose values are host values: nothing changes on the way, and
an error is thrown as its text. The strict one refuses every coercion.
-/

namespace Membrane.Codec

/-- Both directions leave a value as it is. -/
def direct : Codec Value :=
  refusingMarked
    { toEngine := fun v => .ok v
      fromEngine := fun v => .ok v
      toThrowable := fun error => .string error.message }

/-- As `direct`, but no value is ever coerced. -/
def strict : Codec Value :=
  { direct with
    coerce := fun v target =>
      .error (.targetInvocation (.native
        ("refused " ++ v.label ++ " -> " ++ target.display))) }

end Membrane.Codec
