import Membrane.Bridge.World

/-!
# Acts

An act changes the world of a bridge, gives a value, and leaves a trace. The
trace is a tree: what happened while a request was performed, an object was
called or a member ran lies inside it, between the worlds at its two ends.
-/

namespace Membrane

variable {σ V α β : Type}

/-- What can happen while the world changes. -/
inductive Event (σ V : Type) : Type where
  /-- A request was performed and answered. -/
  | performed (request : Request σ V) (answer : Answer σ V)
  /-- A host object was called. -/
  | called (object : Nat) (call : HostCall) (outcome : Except Fault Value)
  /-- A member of an instance ran. -/
  | ran (object : Nat) (slot : Slot) (args : List Value)
  /-- A handwritten object replied by itself. -/
  | replied (object : Nat) (call : HostCall)
  /-- The state of an instance was held for reading. -/
  | held (object : Nat)
  /-- An adapter was asked for the callable of a method. -/
  | resolved (adapter : Nat) (name : String) (function : Option Nat)

/-- An event with the worlds between which it lies, and with all that happened
meanwhile. -/
structure Span (σ V : Type) : Type where
  event : Event σ V
  before : World σ V
  after : World σ V
  inner : List (Span σ V)

/-- The value of an act, its trace, and the world after it. -/
structure Outcome (σ V α : Type) where
  value : α
  trace : List (Span σ V)
  world : World σ V

/-- A change of the world with a value and a trace. -/
def Act (σ V α : Type) :=
  World σ V → Outcome σ V α

namespace Act

/-- Changes nothing and leaves no trace. -/
def pure (a : α) : Act σ V α :=
  fun w => ⟨a, [], w⟩

/-- One act after another; the traces follow each other. -/
def bind (act : Act σ V α) (next : α → Act σ V β) : Act σ V β :=
  fun w =>
    let first := act w
    let second := next first.value first.world
    ⟨second.value, first.trace ++ second.trace, second.world⟩

instance : Monad (Act σ V) where
  pure := pure
  bind := bind

/-- Doing nothing first is no step. -/
theorem pure_bind (a : α) (next : α → Act σ V β) : (pure a).bind next = next a := rfl

/-- Doing nothing afterwards is no step. -/
theorem bind_pure (act : Act σ V α) : act.bind pure = act := by
  funext w
  simp only [bind, pure, List.append_nil]

/-- Three acts in sequence can be grouped either way. -/
theorem bind_assoc {γ : Type} (act : Act σ V α) (f : α → Act σ V β) (g : β → Act σ V γ) :
    (act.bind f).bind g = act.bind fun a => (f a).bind g := by
  funext w
  simp only [bind, List.append_assoc]

instance : LawfulMonad (Act σ V) :=
  LawfulMonad.mk' (Act σ V) bind_pure pure_bind bind_assoc

/-- Looks at the world. -/
def look (f : World σ V → α) : Act σ V α :=
  fun w => ⟨f w, [], w⟩

/-- Changes the world, with a value. -/
def change (f : World σ V → α × World σ V) : Act σ V α :=
  fun w => ⟨(f w).1, [], (f w).2⟩

/-- Changes the world. -/
def update (f : World σ V → World σ V) : Act σ V Unit :=
  fun w => ⟨(), [], f w⟩

/-- Makes an act one event, inside which its trace lies. -/
def within (event : α → Event σ V) (act : Act σ V α) : Act σ V α :=
  fun w =>
    let outcome := act w
    ⟨outcome.value, [⟨event outcome.value, w, outcome.world, outcome.trace⟩], outcome.world⟩

end Act

/-- How requests of a program are performed, if they are. -/
abbrev Entry (σ V : Type) :=
  Option (Request σ V → Act σ V (Answer σ V))

/-- Runs a program. Without an entry its requests are not performed. -/
def Program.run (entry : Entry σ V) : Routine σ V α → Act σ V α
  | .done result => .pure result
  | .fresh template next =>
    (Act.change (·.allocate (.ofTemplate template))).bind fun ref => (next ref).run entry
  | .held handle next => (Act.look (·.handle? handle)).bind fun ref => (next ref).run entry
  | .room next => (next entry.isSome).run entry
  | .request r next =>
    match entry with
    | some perform =>
      ((perform r).within (.performed r)).bind fun answer => (next (some answer)).run entry
    | none => (next none).run entry

/-- A program in two parts runs one part after the other. -/
theorem Program.run_bind (entry : Entry σ V) (p : Routine σ V α) (f : α → Routine σ V β) :
    (p.bind f).run entry = (p.run entry).bind fun a => (f a).run entry := by
  induction p with
  | done result => rfl
  | fresh template next ih =>
    simp only [Program.bind, Program.run, Act.bind_assoc, ih]
  | held handle next ih =>
    simp only [Program.bind, Program.run, Act.bind_assoc, ih]
  | room next ih =>
    simp only [Program.bind, Program.run, ih]
  | request r next ih =>
    cases entry <;> simp only [Program.bind, Program.run, Act.bind_assoc, ih]

end Membrane
