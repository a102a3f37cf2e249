import Membrane.Bridge.Adapter

/-!
# Making and calling callables

The callable of a method is made at most once for each adapter and name. The
engine may do anything while it wraps the binding and before it makes the
function object, also resolve the same name through the same adapter; whoever
comes first wins, and the later function object is let go.

Calling a function converts its arguments one by one, dispatches through its
trampoline, and converts the result.
-/

namespace Membrane

variable {σ V : Type}

/-- Finds or makes the callable of a method; only the first member of the name
counts. The caller has a reference to the function that it is given. -/
def findCallable (adapter : Nat) (name : String) (duringWrap duringMake : Act σ V Unit) :
    Act σ V (Option Nat) := do
  match ← Act.look (·.livingAdapter? adapter) with
  | none => return none
  | some a =>
    match a.cached? name with
    | some function =>
      Act.update (·.acquireFunction function)
      return some function
    | none =>
      let surface ← Act.look (·.surface a.object)
      if (surface.members name).head? = some .method then
        Act.update (·.acquireHandle a.object.id)
        duringWrap
        duringMake
        let minted ← Act.change (·.mint ⟨a.object, name⟩ a.trampoline a.codec)
        let function ← Act.change (·.publish adapter name minted)
        return some function
      else return none

/-- Asks an adapter for the callable of a method. -/
def resolveMethod (adapter : Nat) (name : String) (duringWrap duringMake : Act σ V Unit) :
    Act σ V (Option Nat) :=
  (findCallable adapter name duringWrap duringMake).within (.resolved adapter name)

/-- Calls a function object. -/
def FunctionObject.call (entry : Entry σ V) (f : FunctionObject V) (args : List V) :
    Act σ V (AccessResult V) := do
  match args.mapM f.codec.fromEngine with
  | .error fault => return f.codec.throw (.ofFault fault)
  | .ok values =>
    let outcome ← (f.trampoline f.binding values).run entry f.binding
    return f.codec.deliver .ofFault outcome

/-- Calls a function by its number, if there is one. -/
def callFunction (entry : Entry σ V) (function : Nat) (args : List V) :
    Act σ V (AccessResult V) := do
  match ← Act.look (·.function? function) with
  | some f => f.call entry args
  | none => return .absent

end Membrane
