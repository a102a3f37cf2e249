/-!
# Faults and script errors

Two levels of failure. A host fault is raised on the host side and may wrap the
fault that caused it, one layer for every invocation it passed through. A
script error is what script code gets to see of it at the boundary.
-/

namespace Membrane

/-- Outcomes are compared by what they hold. -/
instance instDecidableEqExcept {ε α : Type} [DecidableEq ε] [DecidableEq α] : DecidableEq (Except ε α)
  | .ok a, .ok b =>
    if same : a = b then .isTrue (congrArg _ same) else .isFalse fun h => same (Except.ok.inj h)
  | .error a, .error b =>
    if same : a = b then .isTrue (congrArg _ same) else .isFalse fun h => same (Except.error.inj h)
  | .ok _, .error _ => .isFalse nofun
  | .error _, .ok _ => .isFalse nofun

/-- A failure of a host object or of a conversion. -/
inductive Fault where
  /-- An invoked member failed; the cause is the meaningful fault. -/
  | targetInvocation (cause : Fault)
  /-- Array access outside the elements. -/
  | indexOutOfRange (index length : Nat)
  /-- A value cannot be converted to the requested type. -/
  | invalidCast (source target : String)
  /-- A text does not read as the requested type. -/
  | format (input target : String)
  /-- A number does not fit the requested type. -/
  | overflow (target : String)
  /-- The host type has no such member. -/
  | missingMember (typeName member : String)
  /-- Any other failure that a host defines. -/
  | native (message : String)
  deriving DecidableEq

namespace Fault

/-- The text of a fault, without its causes. -/
def message : Fault → String
  | targetInvocation _ => "Exception has been thrown by the target of an invocation."
  | indexOutOfRange index length =>
    "Index " ++ toString index ++ " was outside the bounds of the array (length " ++
      toString length ++ ")."
  | invalidCast source target => "Invalid cast from '" ++ source ++ "' to '" ++ target ++ "'."
  | format input target =>
    "Input string '" ++ input ++ "' was not in a correct format for " ++ target ++ "."
  | overflow target => "Value was either too large or too small for " ++ target ++ "."
  | missingMember typeName member =>
    "Member '" ++ member ++ "' not found on type '" ++ typeName ++ "'."
  | native message => message

/-- The fault that an invocation wraps, if this is one. -/
def inner? : Fault → Option Fault
  | targetInvocation cause => some cause
  | _ => none

/-- The fault without its outermost invocation layer, if it has one. -/
def cause (fault : Fault) : Fault :=
  fault.inner?.getD fault

/-- The texts of a fault and of all its causes, outermost first. -/
def describe : Fault → String
  | targetInvocation cause => (targetInvocation cause).message ++ " ---> " ++ cause.describe
  | fault => fault.message

end Fault

/-- A failure as script code sees it. -/
inductive ScriptError where
  /-- The property exists and has no getter. -/
  | notReadable (name : String)
  /-- The property exists and has no setter. -/
  | notWritable (name : String)
  /-- A write to an unknown name while such writes are rejected. -/
  | unknownMember (name : String)
  /-- The host raised a fault. -/
  | fault (raised : Fault)
  /-- A fault of which only the description is reported. -/
  | described (text : String)
  deriving DecidableEq

namespace ScriptError

/-- The text of a script error. -/
def message : ScriptError → String
  | notReadable name => "Property " ++ name ++ " may not be read."
  | notWritable name => "Property " ++ name ++ " may not be set."
  | unknownMember name => "Unknown member: " ++ name
  | fault raised => raised.message
  | described text => text

/-- A host fault at the boundary, without its outermost invocation layer. -/
def ofFault (fault : Fault) : ScriptError :=
  .fault fault.cause

/-- A host fault reported by its full description only. -/
def ofDescription (fault : Fault) : ScriptError :=
  .described fault.describe

end ScriptError

/-- An exception at the boundary: the error, and the engine value that the
script catches. -/
structure Thrown (V : Type) where
  error : ScriptError
  exception : V
  deriving DecidableEq

end Membrane
