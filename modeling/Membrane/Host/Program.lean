import Membrane.Value

/-!
# Programs of members

What a member of a host object does while it runs. A program may make fresh
objects, look up an object by the number of a handle, ask whether it may still
re-enter the bridge, and re-enter it with a request. It is finite, and nothing
else is known about it: the next step may depend on every answer so far.

The types of requests and of answers are parameters, since requests carry
programs themselves.
-/

namespace Membrane

/-- The fresh objects that a program can make: an object without members under
a type name, or an array without elements. -/
inductive Template where
  | named (typeName : String)
  | array (element : ValueType)
  deriving DecidableEq

/-- A finite program that may re-enter the bridge. -/
inductive Program (Request Answer α : Type) : Type where
  /-- The program ends. -/
  | done (result : α)
  /-- Makes an object that no handle numbers. -/
  | fresh (template : Template) (next : ObjectRef → Program Request Answer α)
  /-- Looks up the object of a numbered handle. -/
  | held (handle : Nat) (next : Option ObjectRef → Program Request Answer α)
  /-- Asks whether a request would be performed. -/
  | room (next : Bool → Program Request Answer α)
  /-- Re-enters the bridge; there is no answer where no request is performed. -/
  | request (request : Request) (next : Option Answer → Program Request Answer α)

namespace Program

variable {Request Answer α β : Type}

/-- Runs one program and then another that depends on its result. -/
def bind : Program Request Answer α → (α → Program Request Answer β) → Program Request Answer β
  | done result, f => f result
  | fresh template next, f => fresh template fun ref => (next ref).bind f
  | held handle next, f => held handle fun ref => (next ref).bind f
  | room next, f => room fun free => (next free).bind f
  | request r next, f => request r fun answer => (next answer).bind f

instance : Monad (Program Request Answer) where
  pure := done
  bind := bind

/-- Ending after a program is the program. -/
theorem bind_done (p : Program Request Answer α) : p.bind done = p := by
  induction p with
  | done result => rfl
  | fresh template next ih => exact congrArg (fresh template) (funext ih)
  | held handle next ih => exact congrArg (held handle) (funext ih)
  | room next ih => exact congrArg room (funext ih)
  | request r next ih => exact congrArg (request r) (funext ih)

/-- Three programs in sequence can be grouped either way. -/
theorem bind_assoc {γ : Type} (p : Program Request Answer α) (f : α → Program Request Answer β)
    (g : β → Program Request Answer γ) :
    (p.bind f).bind g = p.bind fun a => (f a).bind g := by
  induction p with
  | done result => rfl
  | fresh template next ih => exact congrArg (fresh template) (funext ih)
  | held handle next ih => exact congrArg (held handle) (funext ih)
  | room next ih => exact congrArg room (funext ih)
  | request r next ih => exact congrArg (request r) (funext ih)

instance : LawfulMonad (Program Request Answer) :=
  LawfulMonad.mk' (Program Request Answer) bind_done (fun _ _ => rfl) bind_assoc

/-- Performs requests one after the other; each is written when its turn
comes, and may make objects for it. -/
def performAll : List (Program Request Answer Request) → Program Request Answer Unit
  | [] => done ()
  | first :: rest => first.bind fun r => request r fun _ => performAll rest

end Program

end Membrane
