import Membrane.Codec

/-!
# Callables

A method of a host object reaches the engine as a function object: a binding of
an object to a member name, and the trampoline through which every call of the
function goes. A trampoline answers by itself or invokes the bound member, once
or more, and may look at each outcome before it goes on.
-/

namespace Membrane

/-- The object and the member name that a function is bound to. -/
structure Binding where
  target : ObjectRef
  name : String
  deriving DecidableEq

/-- A reference as it is shown for diagnosis. -/
def ObjectRef.dump (ref : ObjectRef) : String :=
  "HostHandle(" ++ ref.typeName ++ ")"

/-- A binding as it is shown for diagnosis. -/
def Binding.dump (binding : Binding) : String :=
  "BoundCall(" ++ binding.target.typeName ++ "." ++ binding.name ++ ")"

/-- The course of one dispatch: an outcome, or an invocation of the bound
member and what follows its outcome. -/
inductive Dispatch where
  | done (outcome : Except Fault Value)
  | invoke (args : List Value) (next : Except Fault Value → Dispatch)

/-- How calls of a function are dispatched. -/
abbrev Trampoline :=
  Binding → List Value → Dispatch

namespace Trampoline

/-- Invokes the bound member with the arguments of the call. -/
def bound : Trampoline := fun _ args =>
  .invoke args .done

/-- Answers what it was called for, and invokes nothing. -/
def echo : Trampoline := fun binding args =>
  .done (.ok (.string
    (binding.target.typeName ++ "." ++ binding.name ++ "/" ++ toString args.length)))

/-- Always faults. -/
def failing : Trampoline := fun binding _ =>
  .done (.error (.targetInvocation (.native ("trampoline for " ++ binding.name ++ " failed"))))

/-- Answers its first argument, or null. -/
def first : Trampoline := fun _ args =>
  .done (.ok (args.headD .null))

/-- Invokes the bound member twice and answers the second result; a fault of
the first invocation ends the call. -/
def twice : Trampoline := fun _ args =>
  .invoke args fun
    | .error fault => .done (.error fault)
    | .ok _ => .invoke args .done

end Trampoline

/-- A function object of the engine, with the number of references that keep it
alive. -/
structure FunctionObject (V : Type) where
  binding : Binding
  trampoline : Trampoline
  codec : Codec V
  references : Nat

end Membrane
