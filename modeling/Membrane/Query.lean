import Membrane.Options
import Membrane.Fault
import Membrane.Value

/-!
# Queries

Questions about values, types, faults, options and the counting of handles,
whose answers do not depend on any object that exists.
-/

namespace Membrane

/-- A step in the life of the handles of one object. Handles and adapters are
numbered apart, in the order in which they were made. -/
inductive HandleAction where
  | clone (handle : Nat)
  | drop (handle : Nat)
  | adapt (handle : Nat)
  | dropAdapter (adapter : Nat)
  /-- A new handle from the one that an adapter holds. -/
  | ofAdapter (adapter : Nat)
  | same (handle : Nat)
  deriving DecidableEq

/-- What a handle compares equal to: the first handle, unless that was dropped,
and a handle of another object. -/
structure HandleComparison where
  first : Option Bool
  other : Bool
  deriving DecidableEq

/-- The number of handles after a step, and the comparison that it asked
for. -/
structure HandleReport where
  count : Nat
  comparison : Option HandleComparison
  deriving DecidableEq

/-- A question that depends on no object that exists. -/
inductive Query where
  | changeType (v : Value) (target : ValueType)
  | extract (v : Value) (target : ValueType)
  | types (target source : ValueType)
  | compare (a b : Value)
  | same (a b : Value)
  | fault (fault : Fault) (other : Option Fault) (debug : Bool)
  | options (a b : Options)
  /-- Options from the text of a document. -/
  | settings (text : String)
  /-- Options from the bytes of a file, if there is one. -/
  | settingsFile (bytes : Option (List UInt8))
  | handles (actions : List HandleAction)

/-- What is told of two types. -/
structure TypeReport where
  display : String
  default : Value
  assignable : Bool
  widens : Bool

/-- What is told of a value beside another. -/
structure ValueReport where
  type? : Option ValueType
  label : String
  isNull : Bool
  isObject : Bool
  equal : Bool

/-- What is told of a fault, also as it is thrown at the boundary. -/
structure FaultReport where
  message : String
  description : String
  inner : Option Fault
  /-- The text of the fault inside an invocation. -/
  source : Option String
  cause : Fault
  crossing : ScriptError
  described : ScriptError
  thrown : String
  thrownSource : String
  equal : Option Bool
  debug : Option String

/-- What is told of two sets of options. -/
structure OptionsReport where
  union : Bool
  contains : Bool
  equal : Bool
  isDefault : Bool

/-- The answer to a query. -/
inductive Reply where
  | converted (outcome : Except Fault Value)
  | types (report : TypeReport)
  | compared (report : ValueReport)
  | same (equal : Bool)
  | fault (report : FaultReport)
  | options (report : OptionsReport)
  | settings (outcome : Except OptionsError Options)
  | handles (reports : List HandleReport)

end Membrane
