import Membrane.Bridge.Handles
import Membrane.Fault.Dump
import Membrane.Options.Document

/-!
# Answering queries

Every query is answered by the operation that it names; nothing here has a rule
of its own.
-/

namespace Membrane

/-- What is told of two types. -/
def ValueType.report (target source : ValueType) : TypeReport where
  display := target.display
  default := target.default
  assignable := target.isAssignableFrom source
  widens := target.widensFrom source

/-- What is told of a value beside another. -/
def Value.report (a b : Value) : ValueReport where
  type? := a.type?
  label := a.label
  isNull := a.isNull
  isObject := a.isObject
  equal := a.same b

/-- What is told of a fault beside another. -/
def Fault.report (fault : Fault) (other : Option Fault) (debug : Bool) : FaultReport where
  message := fault.message
  description := fault.describe
  inner := fault.inner?
  source := fault.inner?.map message
  cause := fault.cause
  crossing := .ofFault fault
  described := .ofDescription fault
  thrown := (ScriptError.ofFault fault).message
  thrownSource := (ScriptError.ofFault fault).message
  equal := other.map fun other => fault = other
  debug := if debug then some (Thrown.dump ⟨.ofFault fault, ()⟩) else none

/-- What is told of two sets of options. -/
def Options.report (a b : Options) : OptionsReport where
  union := (a.union b).rejectUnknown
  contains := a.contains b
  equal := a = b
  isDefault := a = .unset

/-- The answer to a query. -/
def Query.answer : Query → Reply
  | .changeType v target => .converted (v.changeType target)
  | .extract v target => .converted (v.extract target)
  | .types target source => .types (target.report source)
  | .compare a b => .compared (a.report b)
  | .same a b => .same (a.same b)
  | .fault raised other debug => .fault (raised.report other debug)
  | .options a b => .options (a.report b)
  | .settings text => .settings (Options.read? text)
  | .settingsFile bytes => .settings (Options.readFile? bytes)
  | .handles actions => .handles (Counting.start.run actions)

end Membrane
