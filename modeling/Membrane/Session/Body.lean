import Membrane.Bridge.Request

/-!
# Bodies of members

Expressions for the members of a session's classes. A body is evaluated with
the state of the instance and the arguments of the call; the first fault stops
it and leaves the state as it is by then. Bodies of getters only read: a body
that would write faults there, after its parts are evaluated.
-/

namespace Membrane

/-- The state of an instance: named slots and a list of items. -/
structure InstanceState where
  slots : List (String × Value)
  items : List Value

namespace InstanceState

/-- What a slot holds; null where nothing was ever stored. -/
def slot (s : InstanceState) (name : String) : Value :=
  (s.slots.lookup name).getD .null

/-- Stores a value in a slot. -/
def store (s : InstanceState) (name : String) (v : Value) : InstanceState :=
  if s.slots.any (·.1 = name) then
    { s with slots := s.slots.map fun (key, old) => if key = name then (key, v) else (key, old) }
  else { s with slots := s.slots ++ [(name, v)] }

end InstanceState

/-- What a body is evaluated with, besides the state. -/
structure Scope where
  args : List Value
  writable : Bool

/-- An expression that reads and may write the state, and may fault. -/
def Body (V α : Type) :=
  Scope → InstanceState → Routine InstanceState V (InstanceState × Except Fault α)

namespace Body

variable {V α β : Type}

/-- A body without effect. -/
def pure (a : α) : Body V α :=
  fun _ s => .done (s, .ok a)

/-- One body and then another, unless the first faults. -/
def bind (body : Body V α) (next : α → Body V β) : Body V β :=
  fun scope s => (body scope s).bind fun
    | (s, .ok a) => next a scope s
    | (s, .error fault) => .done (s, .error fault)

instance : Monad (Body V) where
  pure := pure
  bind := bind

/-- The outcome of an operation on values. -/
def ofOutcome (outcome : Except Fault α) : Body V α :=
  fun _ s => .done (s, outcome)

/-- Always faults. -/
def fail (fault : Fault) : Body V α :=
  ofOutcome (.error fault)

/-- The state. -/
def state : Body V InstanceState :=
  fun _ s => .done (s, .ok s)

/-- The arguments. -/
def arguments : Body V (List Value) :=
  fun scope s => .done (s, .ok scope.args)

/-- Faults where the body only reads. -/
def mayWrite : Body V Unit :=
  fun scope s =>
    .done (s, if scope.writable then .ok () else .error (.native "state is read-only here"))

/-- Replaces the state, where the body may write. -/
def write (new : InstanceState) : Body V Unit := do
  mayWrite
  fun _ _ => .done (new, .ok ())

/-- The value of a literal. -/
def literal (l : Literal Value) : Body V Value :=
  fun _ s => l.read.bind fun v => .done (s, .ok v)

/-- What a slot holds. -/
def slot (name : String) : Body V Value := do
  return (← state).slot name

/-- An argument by its position. -/
def argument (position : Nat) : Body V Value := do
  match (← arguments)[position]? with
  | some v => return v
  | none => fail (.native ("no argument " ++ toString position))

/-- The number of arguments. -/
def argumentCount : Body V Value := do
  return .int (.ofNat (← arguments).length)

/-- The texts of parts one after the other; null has no text. -/
def concat : List (Body V Value) → Body V Value
  | [] => pure (.string "")
  | part :: rest => do
    let v ← ofOutcome ((← part).changeType .string)
    let tail ← concat rest
    match v, tail with
    | .string text, .string more => return .string (text ++ more)
    | _, tail => return tail

/-- Bodies one after the other; the value of the last, null where there is
none. -/
def sequence : List (Body V Value) → Body V Value
  | [] => pure .null
  | [last] => last
  | first :: rest => do
    let _ ← first
    sequence rest

/-- Takes a value out as a scalar. -/
def extract (target : ValueType) (body : Body V Value) : Body V Value := do
  ofOutcome ((← body).extract target)

/-- Converts a value. -/
def change (target : ValueType) (body : Body V Value) : Body V Value := do
  ofOutcome ((← body).changeType target)

/-- Stores a value in a slot. -/
def store (name : String) (body : Body V Value) : Body V Value := do
  let v ← body
  write ((← state).store name v)
  return .null

/-- The value after an increment: integers of 32 bits wrap around, and
everything else counts from one. -/
def incremented : Value → Value
  | .int n => .int (n + 1)
  | _ => .int 1

/-- Increments a slot and gives its new value. -/
def increment (name : String) : Body V Value := do
  let s ← state
  let v := incremented (s.slot name)
  write (s.store name v)
  return v

/-- A value as an index. -/
def index (body : Body V Value) : Body V Int := do
  return (← ofOutcome (← body).extractLong).toInt

/-- The item at an index. -/
def item (body : Body V Value) : Body V Value := do
  let i ← index body
  let items := (← state).items
  match if i < 0 then none else items[i.toNat]? with
  | some v => return v
  | none => fail (.native ("no such item: " ++ .ofList (Text.writeInteger i)))

/-- Replaces the item at an index, or adds one at the end. -/
def put (position value : Body V Value) : Body V Value := do
  let i ← index position
  let v ← value
  mayWrite
  let s ← state
  if i < 0 then fail (.native "negative index")
  else if i.toNat < s.items.length then write { s with items := s.items.set i.toNat v }
  else if i.toNat = s.items.length then write { s with items := s.items ++ [v] }
  else fail (.native ("index " ++ .ofList (Text.writeInteger i) ++ " is past the end"))
  return .null

/-- The number of items. -/
def count : Body V Value := do
  return .int (.ofNat (← state).items.length)

/-- Re-enters the bridge with requests, if it still may. -/
def reenter (requests : List (Routine InstanceState V (Request InstanceState V))) : Body V Value :=
  fun _ s => .room fun free =>
    if free then (Program.performAll requests).bind fun _ => .done (s, .ok .null)
    else .done (s, .error (.native "too deep"))

/-- A body as a getter. -/
def asGetter (body : Body V Value) :
    InstanceState → List Value → Routine InstanceState V (Except Fault Value) :=
  fun s args => (body ⟨args, false⟩ s).bind fun (_, outcome) => .done outcome

/-- A body as a setter or as a method. -/
def asWriter (body : Body V Value) :
    InstanceState → List Value → Routine InstanceState V (InstanceState × Except Fault Value) :=
  fun s args => body ⟨args, true⟩ s

end Body

end Membrane
