import Membrane.Bridge.World
import Membrane.Codec.Direct

/-!
# Counting handles

A run of steps on the handles of one object: each step clones or drops a
handle, wraps the object in an adapter, drops an adapter, or takes a handle
back from an adapter. After every step the object's count is reported.
-/

namespace Membrane

/-- The world of a counting run; its objects have no members that run. -/
abbrev Counting :=
  World Unit Value

namespace Counting

/-- The object whose handles are counted, under its first handle, and beside it
an object that has nothing to do with it. -/
def start : Counting :=
  let w := (World.empty.addObject (.ofTemplate (.named "Counted"))).2
  (w.allocate (.ofTemplate (.named "Unrelated"))).2

/-- Another handle of an object, if there is the object. -/
def cloneOf (w : Counting) (ref : Option ObjectRef) : Counting :=
  match ref with
  | some ref => (w.addHandle ref).2
  | none => w

/-- Wraps an object in an adapter, if there is the object. -/
def adapt (w : Counting) (ref : Option ObjectRef) : Counting :=
  match ref with
  | some ref =>
    (w.addAdapter { object := ref, codec := .direct, options := .unset, trampoline := .bound }).2
  | none => w

/-- The world after one step. -/
def step (w : Counting) : HandleAction → Counting
  | .clone handle => w.cloneOf (w.handle? handle)
  | .drop handle => w.dropHandle handle
  | .adapt handle => w.adapt (w.handle? handle)
  | .dropAdapter adapter => w.dropAdapter adapter
  | .ofAdapter adapter => w.cloneOf ((w.adapter? adapter).map (·.object))
  | .same _ => w

/-- Compares a handle with the first one and with the unrelated object. -/
def compare (w : Counting) (handle : Nat) : Option HandleComparison :=
  (w.handle? handle).map fun ref =>
    ⟨(w.handle? 0).map ref.same, ref.same ⟨1, "Unrelated"⟩⟩

/-- What is reported after a step. -/
def report (w : Counting) (action : HandleAction) : HandleReport where
  count := w.handleCount 0
  comparison :=
    match action with
    | .same handle => w.compare handle
    | _ => none

/-- Runs steps and reports after each. -/
def run (w : Counting) : List HandleAction → List HandleReport
  | [] => []
  | action :: rest =>
    let next := w.step action
    next.report action :: next.run rest

end Counting

end Membrane
