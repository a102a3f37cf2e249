import Membrane.Bridge.Perform

/-!
# Sessions

A session performs requests one after the other in a world that starts empty.
What is told of it are the answers, each with the answers and the logged calls
of handwritten objects that came meanwhile.
-/

namespace Membrane

variable {σ V : Type}

/-- How deep members may re-enter the bridge in a session. -/
def depthLimit : Nat :=
  5

/-- Performs the requests of a session. -/
def runSession (requests : List (Routine σ V (Request σ V))) : Outcome σ V Unit :=
  performProgram (entryAt depthLimit) (Program.performAll requests) .empty

/-- What is told of a session. -/
inductive Note (σ V : Type) : Type where
  | answer (answer : Answer σ V) (meanwhile : List (Note σ V))
  | call (call : HostCall) (meanwhile : List (Note σ V))

/-- What is told of one span. Of calls, members, held states and resolutions
only what came meanwhile is told. -/
def Span.notes : Span σ V → List (Note σ V)
  | ⟨.performed _ answer, _, _, inner⟩ => [.answer answer (all inner)]
  | ⟨.replied _ call, _, _, inner⟩ => [.call call (all inner)]
  | ⟨.called .., _, _, inner⟩ => all inner
  | ⟨.ran .., _, _, inner⟩ => all inner
  | ⟨.held _, _, _, inner⟩ => all inner
  | ⟨.resolved .., _, _, inner⟩ => all inner
where
  /-- What is told of a trace. -/
  all : List (Span σ V) → List (Note σ V)
    | [] => []
    | span :: rest => span.notes ++ all rest

end Membrane
